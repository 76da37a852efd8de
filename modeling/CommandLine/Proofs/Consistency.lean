import CommandLine.Proofs.Outcome
import CommandLine.Proofs.NameGrammar

/-!
# The catalog consistency check

The check walks a catalog once, in order. An entry that is not a descriptor is a problem; a
descriptor adds its own problems, then each of its names is looked up among the owners
recorded so far: a new name is recorded with the canonical name of its descriptor, a name seen
before adds one problem against the owner recorded for it.

A catalog is `Inconsistent` when an entry is not a descriptor, a descriptor has a problem of
its own, or a name is used twice in the names of all descriptors taken in catalog order, gated
ones included. The check fails exactly on such catalogs, and fails with the catalog error
listing every problem, never with anything else, as long as the names can be keys
(`consistency_check_exact`).

How it classifies a repeated name is stated against the names used so far, with no record of
owners (`expectedReports`): a later use of a name adds one problem against the owner of its
first use. That holds for catalogs named by texts. The record of owners takes an owner
recorded as nothing for no owner at all, so a name whose first use belongs to a command named
by nothing is recorded afresh when it is used again, and adds no problem: such a catalog
still fails, since a command named by nothing has an invalid name.

A catalog that passes builds a schema for every set of enabled features.

With text names the problems are the ones `expectedReports` gives
(`Catalog.problems_of_textNamed`), the check fails exactly on inconsistent catalogs
(`Catalog.check_fails_iff`), and a catalog that passes builds (`Catalog.build_of_check`).
-/

namespace CommandLine

namespace Entry

/-- The problems an entry has on its own: a foreign entry is one, a descriptor has its own. -/
def ownProblems : Entry → List String
  | .foreign v => [notDescriptor v]
  | .descriptor d => d.problems

/-- The names of an entry: a descriptor's names, none for a foreign entry. -/
def names : Entry → List Value
  | .foreign _ => []
  | .descriptor d => d.allNames

end Entry

namespace Catalog

def allNames (c : Catalog) : List Value := c.entries.flatMap Entry.names

/-- The inconsistencies the check is meant to find: an entry that is not a descriptor, a
descriptor with a problem of its own, a name used twice. -/
def Inconsistent (c : Catalog) : Prop :=
  (∃ v, .foreign v ∈ c.entries) ∨ (∃ d, .descriptor d ∈ c.entries ∧ d.problems ≠ []) ∨
    ¬ Distinct c.allNames

/-- Every name of every descriptor can be a key. -/
def HashableNames (c : Catalog) : Prop := ∀ e ∈ c.entries, ∀ x ∈ e.names, x.hashable = true

/-- Every name of every descriptor is a text. -/
def TextNamed (c : Catalog) : Prop := ∀ e ∈ c.entries, ∀ x ∈ e.names, ∃ t, x = .str t

end Catalog

/-! ## What the check should report -/

/-- The problem one use of a name adds, given the registrations before it: none for a first
use, and for a repeat one problem against the owner of its first use. -/
def useReport (seen : List (Value × Value)) (d : Descriptor) (x : Value) : List String :=
  match seen.find? (·.1.same x) with
  | some (_, owner) => [repeatProblem d x owner]
  | none => []

/-- The problems the uses of a descriptor's names add, each against the registrations before
it, the descriptor's earlier names included. -/
def useReports (d : Descriptor) : List (Value × Value) → List Value → List String
  | _, [] => []
  | seen, x :: xs => useReport seen d x ++ useReports d (seen ++ [(x, d.name)]) xs

/-- What the check should report for entries after the registrations `seen`: entry by entry,
its own problems, then one problem for each use of a name that repeats an earlier use. -/
def expectedReports : List (Value × Value) → List Entry → List String
  | _, [] => []
  | seen, .foreign v :: rest => notDescriptor v :: expectedReports seen rest
  | seen, .descriptor d :: rest =>
    d.problems ++ useReports d seen d.allNames ++ expectedReports (seen ++ d.registrations) rest

/-- A use adds no problem exactly when its name is new. -/
theorem useReport_eq_nil_iff (seen : List (Value × Value)) (d : Descriptor) (x : Value) :
    useReport seen d x = [] ↔ ∀ y ∈ seen.map Prod.fst, y.same x = false := by
  unfold useReport
  cases hfind : seen.find? (·.1.same x) with
  | some p =>
    simp only [reduceCtorEq, false_iff]
    intro h
    have hsame : p.1.same x = true := by simpa using List.find?_some hfind
    rw [h p.1 (List.mem_map_of_mem (List.mem_of_find?_eq_some hfind))] at hsame
    exact Bool.false_ne_true hsame
  | none =>
    simp only [true_iff, List.mem_map]
    rintro y ⟨p, hp, rfl⟩
    simpa using List.find?_eq_none.mp hfind p hp

/-- No use adds a problem exactly when no name repeats an earlier one. -/
theorem useReports_eq_nil_iff (d : Descriptor) :
    ∀ (seen : List (Value × Value)) (xs : List Value), Distinct (seen.map Prod.fst) →
      (useReports d seen xs = [] ↔ Distinct (seen.map Prod.fst ++ xs))
  | seen, [], hseen => by simpa [useReports] using hseen
  | seen, x :: xs, hseen => by
    have hrest := useReports_eq_nil_iff d (seen ++ [(x, d.name)]) xs
    simp only [List.map_append, List.map_cons, List.map_nil] at hrest
    rw [useReports, List.append_eq_nil_iff, useReport_eq_nil_iff]
    constructor
    · rintro ⟨hx, hxs⟩
      have hseen' := distinct_append_singleton.mpr ⟨hseen, hx⟩
      simpa using (hrest hseen').mp hxs
    · intro hd
      have hseen' : Distinct (seen.map Prod.fst ++ [x]) :=
        (show Distinct ((seen.map Prod.fst ++ [x]) ++ xs) by simpa using hd).of_append_left
      exact ⟨(distinct_append_singleton.mp hseen').2, (hrest hseen').mpr (by simpa using hd)⟩

/-- Entries without problems of their own report nothing exactly when their names, after the
registrations `seen`, repeat none. -/
theorem expectedReports_eq_nil_iff :
    ∀ (seen : List (Value × Value)) (es : List Entry), Distinct (seen.map Prod.fst) →
      (∀ e ∈ es, e.ownProblems = []) →
      (expectedReports seen es = [] ↔ Distinct (seen.map Prod.fst ++ es.flatMap Entry.names))
  | seen, [], hseen, _ => by simpa [expectedReports] using hseen
  | seen, .foreign v :: rest, _, hown => by
    simp [Entry.ownProblems] at hown
  | seen, .descriptor d :: rest, hseen, hown => by
    have hd : d.problems = [] := hown _ (List.mem_cons_self ..)
    have hnames := useReports_eq_nil_iff d seen d.allNames hseen
    rw [expectedReports, hd, List.nil_append, List.append_eq_nil_iff, hnames]
    have hseen' : Distinct (seen.map Prod.fst ++ d.allNames) →
        Distinct ((seen ++ d.registrations).map Prod.fst) := by
      simp [Descriptor.registrations_map_fst]
    constructor
    · rintro ⟨hds, hrest⟩
      have := (expectedReports_eq_nil_iff _ rest (hseen' hds)
        fun e he => hown e (List.mem_cons_of_mem _ he)).mp hrest
      simpa [Descriptor.registrations_map_fst, Entry.names] using this
    · intro hall
      have hds : Distinct (seen.map Prod.fst ++ d.allNames) :=
        (show Distinct ((seen.map Prod.fst ++ d.allNames) ++ rest.flatMap Entry.names) by
          simpa [Entry.names] using hall).of_append_left
      refine ⟨hds, (expectedReports_eq_nil_iff _ rest (hseen' hds)
        fun e he => hown e (List.mem_cons_of_mem _ he)).mpr ?_⟩
      simpa [Descriptor.registrations_map_fst, Entry.names] using hall

/-! ## One name, one entry -/

theorem ownerOf_ok {x : Value} (hx : x.hashable = true) (owners : Owners) :
    ownerOf owners x = .ok ((owners.find? (·.1.same x)).map (·.2)) := by
  simp [ownerOf, hx]

/-- Checking a name that can be key never fails, and only adds problems. -/
theorem checkName_grows (d : Descriptor) {x : Value} (hx : x.hashable = true)
    (ps : List String) (owners : Owners) :
    ∃ extra owners', checkName d (ps, owners) x = .ok (ps ++ extra, owners') := by
  simp only [checkName, ownerOf_ok hx, Except.ok_bind]
  split
  · exact ⟨[], (x, d.name) :: owners, by simp⟩
  · exact ⟨[], (x, d.name) :: owners, by simp⟩
  · exact ⟨_, _, rfl⟩

/-- Checking names that can be keys never fails, and only adds problems. -/
theorem foldlM_checkName_grows (d : Descriptor) :
    ∀ (names : List Value) (ps : List String) (owners : Owners),
      (∀ x ∈ names, x.hashable = true) →
      ∃ extra owners', names.foldlM (checkName d) (ps, owners) = .ok (ps ++ extra, owners')
  | [], ps, owners, _ => ⟨[], owners, by simp⟩
  | x :: names, ps, owners, h => by
    obtain ⟨extra, owners', hx⟩ := checkName_grows d (h x (List.mem_cons_self ..)) ps owners
    obtain ⟨extra', owners'', hrest⟩ := foldlM_checkName_grows d names (ps ++ extra) owners'
      fun y hy => h y (List.mem_cons_of_mem _ hy)
    exact ⟨extra ++ extra', owners'', by simp [List.foldlM_cons, hx, hrest]⟩

theorem checkEntry_grows {e : Entry} (h : ∀ x ∈ e.names, x.hashable = true)
    (acc : List String × Owners) :
    ∃ extra owners', checkEntry acc e = .ok (acc.1 ++ e.ownProblems ++ extra, owners') := by
  cases e with
  | foreign v => exact ⟨[], acc.2, by simp [checkEntry, Entry.ownProblems]⟩
  | descriptor d => exact foldlM_checkName_grows d d.allNames _ acc.2 h

/-- Checking entries whose names can be keys never fails, and the problems found hold every
entry's own. -/
theorem foldlM_checkEntry_grows :
    ∀ (es : List Entry) (acc : List String × Owners), (∀ e ∈ es, ∀ x ∈ e.names, x.hashable = true) →
      ∃ ps owners, es.foldlM checkEntry acc = .ok (ps, owners) ∧ acc.1 <+: ps ∧
        ∀ e ∈ es, ∀ p ∈ e.ownProblems, p ∈ ps
  | [], acc, _ => ⟨acc.1, acc.2, by simp, List.prefix_refl _, by simp⟩
  | e :: es, acc, h => by
    obtain ⟨extra, owners', he⟩ := checkEntry_grows (h e (List.mem_cons_self ..)) acc
    obtain ⟨ps, owners, hrest, hpre, hmem⟩ := foldlM_checkEntry_grows es
      (acc.1 ++ e.ownProblems ++ extra, owners') fun e' he' => h e' (List.mem_cons_of_mem _ he')
    refine ⟨ps, owners, by rw [List.foldlM_cons, he, Except.ok_bind]; exact hrest, ?_, ?_⟩
    · exact ((List.prefix_append _ _).trans (List.prefix_append _ _)).trans hpre
    · intro e' he' p hp
      rcases List.mem_cons.mp he' with rfl | he'
      · exact hpre.subset (by simp [hp])
      · exact hmem e' he' p hp

namespace Catalog

/-- With names that can be keys, finding the problems never fails, and they hold every
entry's own. -/
theorem problems_ok {c : Catalog} (h : c.HashableNames) :
    ∃ ps, c.problems = .ok ps ∧ ∀ e ∈ c.entries, ∀ p ∈ e.ownProblems, p ∈ ps := by
  obtain ⟨ps, owners, hfold, -, hmem⟩ := foldlM_checkEntry_grows c.entries ([], []) h
  exact ⟨ps, by simp [Catalog.problems, hfold], hmem⟩

theorem check_of_problems {c : Catalog} {ps : List String} (h : c.problems = .ok ps) :
    c.check = if ps.isEmpty then .ok () else .error (.cli (inconsistentCatalog ps)) := by
  simp only [Catalog.check, h, Except.ok_bind]
  split <;> rfl

end Catalog

/-! ## Catalogs named by texts -/

/-- The owners recorded answer for every text as the registrations seen so far do: with the
owner of its first use. -/
def OwnersAgree (owners seen : List (Value × Value)) : Prop :=
  ∀ s, (owners.find? (·.1.same (.str s))).map (·.2) = (seen.find? (·.1.same (.str s))).map (·.2)

/-- Registrations owned by texts, as the registrations of a catalog named by texts are. -/
def OwnedByTexts (seen : List (Value × Value)) : Prop := ∀ p ∈ seen, ∃ u, p.2 = .str u

/-- Names registered to a command named by a text keep every owner a text. -/
theorem OwnedByTexts.append {seen : List (Value × Value)} (hseen : OwnedByTexts seen)
    {d : Descriptor} {u : String} (hu : d.name = .str u) (names : List Value) :
    OwnedByTexts (seen ++ names.map (·, d.name)) := by
  intro p hp
  rcases List.mem_append.mp hp with hp | hp
  · exact hseen p hp
  · obtain ⟨x, -, rfl⟩ := List.mem_map.mp hp
    exact ⟨u, hu⟩

@[simp] theorem same_str_str (t s : String) : (Value.str t).same (.str s) = (t == s) := rfl

theorem find?_append_single (seen : List (Value × Value)) (t s : String) (o : Value) :
    ((seen ++ [(Value.str t, o)]).find? (·.1.same (.str s))).map (·.2) =
      ((seen.find? (·.1.same (.str s))).map (·.2)).or (if t = s then some o else none) := by
  rw [List.find?_append]
  cases seen.find? (·.1.same (.str s)) <;> by_cases hts : t = s <;> simp [hts]

/-- The step of the check on a text, with the owners agreeing with the registrations seen:
it adds what the first use of the text says, and the owners go on agreeing. -/
theorem checkName_text (d : Descriptor) {owners seen : List (Value × Value)}
    (hagree : OwnersAgree owners seen) (hseen : OwnedByTexts seen) (ps : List String) (t : String) :
    ∃ owners', checkName d (ps, owners) (.str t) = .ok (ps ++ useReport seen d (.str t), owners') ∧
      OwnersAgree owners' (seen ++ [(.str t, d.name)]) := by
  have howner := ownerOf_ok (x := .str t) rfl owners
  rw [hagree t] at howner
  simp only [checkName, howner, Except.ok_bind, useReport]
  cases hfind : seen.find? (·.1.same (.str t)) with
  | none =>
    refine ⟨(.str t, d.name) :: owners, by simp, fun s => ?_⟩
    rw [find?_append_single, List.find?_cons]
    by_cases hts : t = s
    · subst hts
      simp [hfind]
    · have hbeq : (t == s) = false := by simpa using hts
      simp [hts, hbeq, hagree s]
  | some p =>
    obtain ⟨y, o⟩ := p
    obtain ⟨v, hv⟩ := hseen _ (List.mem_of_find?_eq_some hfind)
    subst hv
    refine ⟨owners, rfl, fun s => ?_⟩
    rw [find?_append_single, hagree s]
    by_cases hts : t = s
    · subst hts
      simp [hfind]
    · simp [hts]

/-- Checking the text names of a descriptor adds the problems `useReports` lists. -/
theorem foldlM_checkName_texts {d : Descriptor} {u : String} (hname : d.name = .str u) :
    ∀ (names : List Value) (ps : List String) (owners seen : List (Value × Value)),
      (∀ x ∈ names, ∃ t, x = .str t) → OwnersAgree owners seen → OwnedByTexts seen →
      ∃ owners', names.foldlM (checkName d) (ps, owners) = .ok (ps ++ useReports d seen names, owners') ∧
        OwnersAgree owners' (seen ++ names.map (·, d.name))
  | [], ps, owners, seen, _, hagree, _ => ⟨owners, by simp [useReports], by simpa using hagree⟩
  | x :: names, ps, owners, seen, htext, hagree, hseen => by
    obtain ⟨t, rfl⟩ := htext x (List.mem_cons_self ..)
    obtain ⟨owners', hstep, hagree'⟩ := checkName_text d hagree hseen ps t
    obtain ⟨owners'', hrest, hagree''⟩ := foldlM_checkName_texts hname names _ owners' _
      (fun y hy => htext y (List.mem_cons_of_mem _ hy)) hagree' (hseen.append hname [.str t])
    refine ⟨owners'', ?_, by simpa using hagree''⟩
    rw [List.foldlM_cons, hstep, Except.ok_bind, hrest, useReports, List.append_assoc]

/-- Checking entries named by texts finds the problems `expectedReports` lists. -/
theorem foldlM_checkEntry_texts :
    ∀ (es : List Entry) (ps : List String) (owners seen : List (Value × Value)),
      (∀ e ∈ es, ∀ x ∈ e.names, ∃ t, x = .str t) → OwnersAgree owners seen → OwnedByTexts seen →
      ∃ owners', es.foldlM checkEntry (ps, owners) = .ok (ps ++ expectedReports seen es, owners')
  | [], ps, owners, _, _, _, _ => ⟨owners, by simp [expectedReports]⟩
  | .foreign v :: es, ps, owners, seen, htext, hagree, hseen => by
    obtain ⟨owners', hrest⟩ := foldlM_checkEntry_texts es (ps ++ [notDescriptor v]) owners seen
      (fun e he => htext e (List.mem_cons_of_mem _ he)) hagree hseen
    refine ⟨owners', ?_⟩
    rw [List.foldlM_cons]
    simpa [checkEntry, expectedReports] using hrest
  | .descriptor d :: es, ps, owners, seen, htext, hagree, hseen => by
    have hd := htext _ (List.mem_cons_self ..)
    obtain ⟨u, hu⟩ := hd d.name (by simp [Entry.names, Descriptor.allNames])
    obtain ⟨owners', hnames, hagree'⟩ := foldlM_checkName_texts hu d.allNames (ps ++ d.problems)
      owners seen hd hagree hseen
    obtain ⟨owners'', hrest⟩ := foldlM_checkEntry_texts es
      (ps ++ d.problems ++ useReports d seen d.allNames) owners' (seen ++ d.registrations)
      (fun e he => htext e (List.mem_cons_of_mem _ he)) hagree' (hseen.append hu d.allNames)
    refine ⟨owners'', ?_⟩
    rw [List.foldlM_cons]
    simp only [checkEntry, hnames, Except.ok_bind, expectedReports]
    simpa [List.append_assoc] using hrest

namespace Catalog

/-- In a catalog named by texts, the problems are each entry's own, then one for each later use
of a name, against the owner of its first use. -/
theorem problems_of_textNamed {c : Catalog} (h : c.TextNamed) :
    c.problems = .ok (expectedReports [] c.entries) := by
  obtain ⟨owners, hfold⟩ := foldlM_checkEntry_texts c.entries [] [] [] h (fun _ => rfl)
    (fun _ hp => absurd hp List.not_mem_nil)
  simp [Catalog.problems, hfold]

end Catalog

/-! ## Failing exactly on inconsistent catalogs -/

namespace Descriptor

theorem names_of_problems_nil {d : Descriptor} (h : d.problems = []) :
    ∀ x ∈ d.allNames, AcceptedName x := by
  rw [invalid_names_reported, List.append_eq_nil_iff, List.map_eq_nil_iff,
    List.filter_eq_nil_iff] at h
  intro x hx
  simpa using h.1 x hx

/-- A descriptor without problems can be built: its requirement is none or a capability, its
argument schema adds its arguments, and it is listed under a category. -/
theorem fields_of_problems_nil {d : Descriptor} (h : d.problems = []) :
    d.PlainRequirement ∧ d.args ≠ .bad ∧ ∃ c, d.placement = .category c := by
  have hfield : d.fieldProblems = [] := (List.append_eq_nil_iff.mp h).2
  simp only [fieldProblems, List.append_eq_nil_iff] at hfield
  obtain ⟨⟨⟨-, hargs⟩, hplace⟩, hreq⟩ := hfield
  refine ⟨fun v hv => by simp [hv] at hreq, fun hbad => by simp [hbad, ArgsKind.wellFormed] at hargs,
    ?_⟩
  cases hp : d.placement with
  | category c => exact ⟨c, rfl⟩
  | other v => simp [hp] at hplace

end Descriptor

namespace Catalog

/-- No entry has a problem of its own exactly when every entry is a descriptor without
problems. -/
theorem ownProblems_nil_iff (c : Catalog) :
    (∀ e ∈ c.entries, e.ownProblems = []) ↔
      (¬ ∃ v, .foreign v ∈ c.entries) ∧ ¬ ∃ d, .descriptor d ∈ c.entries ∧ d.problems ≠ [] := by
  constructor
  · intro h
    refine ⟨fun ⟨v, hv⟩ => by simpa [Entry.ownProblems] using h _ hv,
      fun ⟨d, hd, hne⟩ => hne (h _ hd)⟩
  · rintro ⟨hforeign, hdesc⟩ e he
    cases e with
    | foreign v => exact absurd ⟨v, he⟩ hforeign
    | descriptor d => exact Classical.byContradiction fun hne => hdesc ⟨d, he, hne⟩

/-- A catalog without problems of its own is named by texts. -/
theorem textNamed_of_ownProblems {c : Catalog} (h : ∀ e ∈ c.entries, e.ownProblems = []) :
    c.TextNamed := by
  intro e he x hx
  cases e with
  | foreign v => simp [Entry.names] at hx
  | descriptor d =>
    obtain ⟨t, rfl, -⟩ := Descriptor.names_of_problems_nil (h _ he) x hx
    exact ⟨t, rfl⟩

/-- The problems found are none exactly when the catalog is consistent. -/
theorem problems_nil_iff {c : Catalog} (hhash : c.HashableNames) {ps : List String}
    (hps : c.problems = .ok ps) : ps = [] ↔ ¬ c.Inconsistent := by
  obtain ⟨ps', hps', hown⟩ := problems_ok hhash
  rw [hps] at hps'
  cases hps'
  -- with no problem of its own, the catalog is named by texts and its problems are the reports
  have hreports : (∀ e ∈ c.entries, e.ownProblems = []) →
      (ps = [] ↔ Distinct c.allNames) := by
    intro hnone
    have hexp := problems_of_textNamed (textNamed_of_ownProblems hnone)
    rw [hps] at hexp
    cases hexp
    simpa [allNames] using expectedReports_eq_nil_iff [] c.entries (by simp [Distinct]) hnone
  have hnil : ps = [] → ∀ e ∈ c.entries, e.ownProblems = [] := fun h e he =>
    List.eq_nil_iff_forall_not_mem.mpr fun p hp => by simpa [h] using hown e he p hp
  simp only [Inconsistent, not_or, Classical.not_not]
  constructor
  · intro h
    exact ⟨(c.ownProblems_nil_iff.mp (hnil h)).1, (c.ownProblems_nil_iff.mp (hnil h)).2,
      (hreports (hnil h)).mp h⟩
  · rintro ⟨hforeign, hdesc, hdist⟩
    exact (hreports (c.ownProblems_nil_iff.mpr ⟨hforeign, hdesc⟩)).mpr hdist

/-- The check fails exactly on inconsistent catalogs. -/
theorem check_fails_iff {c : Catalog} (hhash : c.HashableNames) :
    c.check ≠ .ok () ↔ c.Inconsistent := by
  obtain ⟨ps, hps, -⟩ := problems_ok hhash
  have hkey := problems_nil_iff hhash hps
  rw [check_of_problems hps]
  cases ps with
  | nil => exact iff_of_false (by simp) (fun h => hkey.mp rfl h)
  | cons p ps =>
    refine iff_of_true (by simp) (Classical.not_not.mp fun h => ?_)
    cases hkey.mpr h

end Catalog

/-! ## A catalog that passes builds -/

/-- A fold succeeds when each of its steps does, from any accumulator. -/
theorem Except.foldlM_ok {ε α β : Type} {f : β → α → Except ε β} :
    ∀ {l : List α} {init : β}, (∀ b, ∀ a ∈ l, ∃ b', f b a = .ok b') → ∃ r, l.foldlM f init = .ok r
  | [], init, _ => ⟨init, rfl⟩
  | a :: l, init, h => by
    obtain ⟨b', hb'⟩ := h init a (List.mem_cons_self ..)
    obtain ⟨r, hr⟩ := @Except.foldlM_ok _ _ _ f l b' fun b a' ha' =>
      h b a' (List.mem_cons_of_mem _ ha')
    exact ⟨r, by rw [List.foldlM_cons, hb', Except.ok_bind, hr]⟩

/-- Ordering the categories never fails when the values of the order can be keys. -/
theorem Presentation.orderedCategories_ok {pres : Presentation}
    (h : ∀ v, .other v ∈ pres.categoryOrder → v.hashable = true) :
    ∃ order, pres.orderedCategories = .ok order := by
  obtain ⟨firsts, hfirsts⟩ : ∃ firsts, Presentation.dedupe pres.categoryOrder = .ok firsts := by
    unfold Presentation.dedupe
    refine Except.foldlM_ok fun acc p hp => ?_
    cases p with
    | category c => exact ⟨_, rfl⟩
    | other v => exact ⟨_, by simp only [h v hp, Bool.not_true, Bool.false_eq_true, if_false]; rfl⟩
  exact ⟨_, by simp only [Presentation.orderedCategories, hfirsts, Except.ok_bind]; rfl⟩

/-- A listing of commands listed under categories has only categories for headings. -/
theorem listingOf_categories {pres : Presentation} {ds : List Descriptor}
    {listing : List (Placement × List Descriptor)} (h : listingOf pres ds = .ok listing)
    (hcat : ∀ d ∈ ds, ∃ c, d.placement = .category c) : ∀ pe ∈ listing, ∃ c, pe.1 = .category c := by
  unfold listingOf at h
  obtain ⟨order, -, h⟩ := Except.bind_eq_ok.mp h
  cases h
  intro pe hpe
  obtain ⟨p, -, hsome⟩ := List.mem_filterMap.mp hpe
  dsimp only at hsome
  split at hsome
  · cases hsome
  · next hne =>
    cases hsome
    -- a placement holds a command only when it is that command's category
    have hheld : ∃ d, d ∈ ds ∧ d.placement.identical p = true ∧ d.hidden = false := by
      simpa using hne
    obtain ⟨d, hd, hident, -⟩ := hheld
    obtain ⟨c, hc⟩ := hcat d hd
    rw [hc] at hident
    cases p with
    | category c' => exact ⟨c', rfl⟩
    | other v => simp [Placement.identical] at hident

/-- The sections of a listing under categories, of commands with text names, are laid out. -/
theorem listingSections_ok {listing : List (Placement × List Descriptor)}
    (hcat : ∀ pe ∈ listing, ∃ c, pe.1 = .category c)
    (htext : ∀ pe ∈ listing, ∀ d ∈ pe.2, d.TextNames) :
    ∃ sections, listingSections listing = .ok sections := by
  refine Except.mapM_ok fun pe hpe => ?_
  obtain ⟨c, hc⟩ := hcat pe hpe
  obtain ⟨rows, hrows⟩ := listingRows_ok (htext pe hpe)
  obtain ⟨p, entries⟩ := pe
  simp only at hc hrows
  subst hc
  exact ⟨_, by simp only [Placement.heading, hrows, Except.pure_eq_ok, Except.ok_bind]; rfl⟩

/-- Entries without problems of their own are descriptors without problems. -/
theorem exists_descriptors_of_ownProblems :
    ∀ {es : List Entry}, (∀ e ∈ es, e.ownProblems = []) →
      ∃ ds : List Descriptor, es = ds.map .descriptor ∧ ∀ d ∈ ds, d.problems = []
  | [], _ => ⟨[], rfl, by simp⟩
  | .foreign v :: _, h => by simpa [Entry.ownProblems] using h _ (List.mem_cons_self ..)
  | .descriptor d :: es, h => by
    obtain ⟨ds, rfl, hds⟩ := exists_descriptors_of_ownProblems fun e he =>
      h e (List.mem_cons_of_mem _ he)
    refine ⟨d :: ds, rfl, fun d' hd' => ?_⟩
    rcases List.mem_cons.mp hd' with rfl | hd'
    · exact h _ (List.mem_cons_self ..)
    · exact hds d' hd'

namespace Descriptor

/-- A descriptor without problems can be registered, and the listing shows its names. -/
theorem registrable_of_problems_nil {d : Descriptor} (h : d.problems = []) :
    d.Registrable ∧ d.TextNames := by
  obtain ⟨hplain, hargs, -⟩ := fields_of_problems_nil h
  have htext : ∀ x ∈ d.allNames, ∃ t, x = .str t := fun x hx => by
    obtain ⟨t, rfl, -⟩ := names_of_problems_nil h x hx
    exact ⟨t, rfl⟩
  refine ⟨⟨hplain, fun x hx => ?_, hargs⟩, htext d.name (by simp [allNames]),
    fun a ha => htext a (by simp [allNames, ha])⟩
  obtain ⟨t, rfl⟩ := htext x hx
  rfl

end Descriptor

namespace Catalog

/-- A catalog that passes the check is made of descriptors without problems of their own,
whose names, taken in catalog order, are all different. -/
theorem descriptors_of_check {c : Catalog} (hhash : c.HashableNames) (hcheck : c.check = .ok ()) :
    ∃ ds : List Descriptor, c.entries = ds.map .descriptor ∧ (∀ d ∈ ds, d.problems = []) ∧
      Distinct (ds.flatMap Descriptor.allNames) := by
  have hcons : ¬ c.Inconsistent := fun h => (check_fails_iff hhash).mpr h hcheck
  simp only [Inconsistent, not_or, Classical.not_not] at hcons
  obtain ⟨hforeign, hdesc, hdist⟩ := hcons
  obtain ⟨ds, hds, hnil⟩ := exists_descriptors_of_ownProblems
    (c.ownProblems_nil_iff.mpr ⟨hforeign, hdesc⟩)
  have hall : c.allNames = ds.flatMap Descriptor.allNames := by
    simp [allNames, hds, List.flatMap_map, Entry.names]
  exact ⟨ds, hds, hnil, hall ▸ hdist⟩

/-- A catalog that passes the check builds a schema for every set of enabled features and every
presentation whose order of categories can be keys, whether the build checks it again or not. -/
theorem build_of_check {c : Catalog} (hhash : c.HashableNames) (hcheck : c.check = .ok ())
    (caps : CapabilitySet) {pres : Presentation}
    (hpres : ∀ v, .other v ∈ pres.categoryOrder → v.hashable = true) (verify : Bool) :
    ∃ s, Schema.build c caps pres verify = .ok s := by
  obtain ⟨ds, hds, hnil, hdist⟩ := descriptors_of_check hhash hcheck
  have hreg := fun d hd => Descriptor.registrable_of_problems_nil (hnil d hd)
  have hb : ∀ d ∈ ds, d.Buildable caps := fun d hd => (hreg d hd).1.buildable caps
  -- the enabled names are some of all the names, in order, so they are distinct too
  have hwalk := walk_of_distinct hb (hdist.sublist (sublist_enabledNames caps ds)) pres.program
    pres.styles
  rw [← hds] at hwalk
  obtain ⟨order, horder⟩ := Presentation.orderedCategories_ok hpres
  obtain ⟨listing, hl⟩ : ∃ listing, listingOf pres (ds.filter (·.enabledIn caps)) = .ok listing :=
    ⟨_, by simp only [listingOf, horder, Except.ok_bind]; rfl⟩
  have henabled : ∀ d ∈ ds.filter (·.enabledIn caps), d ∈ ds := fun d hd => (List.mem_filter.mp hd).1
  obtain ⟨sections, hsections⟩ := listingSections_ok
    (listingOf_categories hl fun d hd => (Descriptor.fields_of_problems_nil (hnil d (henabled d hd))).2.2)
    fun pe hpe d hd => (hreg d (henabled d (listingOf_entries hl pe hpe d hd).1)).2
  rw [Schema.build_verify, hcheck, Schema.build_of_walk hwalk hl, hsections]
  cases verify <;> exact ⟨_, rfl⟩

end Catalog

/-! ## The check, exactly -/

/-- What the consistency check does on a catalog. -/
structure Catalog.CheckedExactly (c : Catalog) : Prop where
  /-- It passes, or fails with the catalog error listing every problem found: nothing else
  escapes. -/
  outcome : ∃ ps, c.problems = .ok ps ∧
    c.check = if ps.isEmpty then .ok () else .error (.cli (inconsistentCatalog ps))
  /-- It fails exactly on an entry that is not a descriptor, a descriptor with a problem of its
  own, or a name used twice, gated commands included. -/
  fails_iff : c.check ≠ .ok () ↔ c.Inconsistent
  /-- Named by texts, its problems are each entry's own, then one for each later use of a name,
  against the owner of its first use. -/
  reports : c.TextNamed → c.problems = .ok (expectedReports [] c.entries)
  /-- Once it passes, the catalog builds for every set of features and every presentation whose
  order of categories can be keys, checked again or not. -/
  builds : c.check = .ok () → ∀ (caps : CapabilitySet) (pres : Presentation) (verify : Bool),
    (∀ v, .other v ∈ pres.categoryOrder → v.hashable = true) →
    ∃ s, Schema.build c caps pres verify = .ok s

/-- The consistency check of a catalog whose names can be keys detects exactly its
inconsistencies, reports each repeated use of a text once, and lets only buildable catalogs
pass. -/
theorem consistency_check_exact (c : Catalog) (h : c.HashableNames) : c.CheckedExactly where
  outcome := by
    obtain ⟨ps, hps, -⟩ := Catalog.problems_ok h
    exact ⟨ps, hps, Catalog.check_of_problems hps⟩
  fails_iff := Catalog.check_fails_iff h
  reports := Catalog.problems_of_textNamed
  builds hcheck caps _ verify hpres := Catalog.build_of_check h hcheck caps hpres verify

/-- A catalog that lists an alias twice and gives it again to a gated command. -/
theorem repeated_alias_checked :
    Catalog.HashableNames
        ⟨[.descriptor { name := .str "log", handler := .version, args := .raw,
                        aliases := [.str "l", .str "l"] },
          .descriptor { name := .str "bench", handler := .version, args := .none,
                        hiddenAliases := [.str "l"], requires := .needs .bench }]⟩ ∧
      Catalog.CheckedExactly
        ⟨[.descriptor { name := .str "log", handler := .version, args := .raw,
                        aliases := [.str "l", .str "l"] },
          .descriptor { name := .str "bench", handler := .version, args := .none,
                        hiddenAliases := [.str "l"], requires := .needs .bench }]⟩ := by
  have h : Catalog.HashableNames
      ⟨[.descriptor { name := .str "log", handler := .version, args := .raw,
                      aliases := [.str "l", .str "l"] },
        .descriptor { name := .str "bench", handler := .version, args := .none,
                      hiddenAliases := [.str "l"], requires := .needs .bench }]⟩ := by
    simp [Catalog.HashableNames, Entry.names, Descriptor.allNames, Value.hashable]
  exact ⟨h, consistency_check_exact _ h⟩

end CommandLine
