import Mathlib
import CommandLine.Capability

/-!
# Reading the features variable

A value of the features variable lists names separated by commas. Each name is compared as
it reads once the Unicode whitespace around it is removed and it is put in lower case
(`featureName`). A name that is then blank is skipped, `git` and `bench` enable their
capabilities, and the first other name is refused with the configuration error
`Unknown feature '<name>'`.

The value is cut by `String.splitOn`, which walks byte positions. At a one-character
separator it cuts the list of characters at every occurrence of that character
(`splitOn_singleton`), so the names of a value are its pieces between commas
(`listedFeatures`).

Reading is a left fold over the names. `ofNames_append_blank`, `ofNames_append_name` and
`ofNames_append_unknown` say what one more name does to it; by induction from the right,
`ofNames_of_known` and `ofNames_first_unknown` say what a whole list does.

So a value whose names are all blank or known enables exactly the capabilities it names
(`ofVariable_listed`), the same set as every value listing the same names, blank ones apart
(`ofVariable_congr`); any other value is refused for its first unknown name
(`ofVariable_first_unknown`). `features_variable_read` gathers these with the unset variable.
-/

namespace CommandLine

/-! ## Splitting at one character -/

section Split

open String

/-- The split loop at a one-character separator, started between two cuts: the rest of the
string is cut at every occurrence of the separator. The string is `l ++ m ++ r`, the last cut
ends after `l`, and the loop stands after `m`. -/
theorem splitOnAux_singleton (c : Char) (l m r : List Char) (acc : List String) :
    splitOnAux (ofList (l ++ m ++ r)) (String.singleton c) ⟨utf8Len l⟩ ⟨utf8Len l + utf8Len m⟩ 0
      acc = acc.reverse ++ (r.splitOnPPrepend (· == c) m.reverse).map ofList := by
  induction r generalizing l m acc with
  | nil =>
    have hend : Pos.Raw.atEnd (ofList (l ++ m ++ [])) ⟨utf8Len l + utf8Len m⟩ = true := by
      rw [← utf8Len_append]
      exact (atEnd_of_valid (l ++ m) []).2 rfl
    rw [splitOnAux.eq_def, if_pos hend, extract_of_valid l m []]
    simp [List.splitOnPPrepend]
  | cons d r ih =>
    -- the loop reads `d` at its position and moves past it
    have hend : Pos.Raw.atEnd (ofList (l ++ m ++ d :: r)) ⟨utf8Len l + utf8Len m⟩ = false := by
      rw [← utf8Len_append]
      exact Bool.eq_false_iff.mpr fun h => List.cons_ne_nil d r ((atEnd_of_valid (l ++ m) (d :: r)).1 h)
    have hget : Pos.Raw.get (ofList (l ++ m ++ d :: r)) ⟨utf8Len l + utf8Len m⟩ = d := by
      rw [← utf8Len_append]
      exact get_of_valid (l ++ m) (d :: r)
    have hnext : Pos.Raw.next (ofList (l ++ m ++ d :: r)) ⟨utf8Len l + utf8Len m⟩ =
        ⟨utf8Len l + utf8Len m + d.utf8Size⟩ := by
      rw [← utf8Len_append]
      exact next_of_valid (l ++ m) d r
    -- the separator is matched whole by its one character
    have hget0 : Pos.Raw.get (String.singleton c) 0 = c := by
      simpa using get_of_valid [] [c]
    have hnext0 : Pos.Raw.next (String.singleton c) 0 = ⟨c.utf8Size⟩ := by
      simpa using next_of_valid [] c []
    have hend0 : Pos.Raw.atEnd (String.singleton c) ⟨c.utf8Size⟩ = true := by
      simpa using (atEnd_of_valid [c] []).2 rfl
    rw [splitOnAux.eq_def]
    simp only [hend, hget, hnext, hget0, hnext0, hend0, Bool.false_eq_true, if_false, if_true]
    by_cases hdc : d = c
    · -- a cut: `m` is a piece, and the next one starts after `d`
      subst hdc
      have hback : (⟨utf8Len l + utf8Len m + d.utf8Size⟩ : Pos.Raw).unoffsetBy ⟨d.utf8Size⟩ =
          ⟨utf8Len l + utf8Len m⟩ := by
        simp [Pos.Raw.unoffsetBy]
      simp only [beq_self_eq_true, if_true, hback, extract_of_valid l m (d :: r)]
      simpa [List.splitOnPPrepend_cons_eq_if, -ofList_append, Nat.add_assoc] using
        ih (l ++ m ++ [d]) [] (ofList m :: acc)
    · -- no cut: `d` joins the piece
      have hstay : (⟨utf8Len l + utf8Len m⟩ : Pos.Raw).unoffsetBy 0 = ⟨utf8Len l + utf8Len m⟩ := by
        simp [Pos.Raw.unoffsetBy]
      simp only [beq_iff_eq, hdc, if_false, hstay, hnext]
      simpa [List.splitOnPPrepend_cons_eq_if, hdc, -ofList_append, Nat.add_assoc] using
        ih l (m ++ [d]) acc

/-- Splitting a string at a one-character separator cuts its characters at every occurrence
of that character. -/
theorem splitOn_singleton (s : String) (c : Char) :
    s.splitOn (String.singleton c) = (s.toList.splitOn c).map String.ofList := by
  have hsep : (String.singleton c == "") = false := by
    simp [← String.toList_inj]
  have h := splitOnAux_singleton c [] [] s.toList []
  rw [List.nil_append, List.nil_append, String.ofList_toList] at h
  rw [String.splitOn, hsep, List.splitOn_eq_splitOnP, List.splitOnP]
  simp only [Bool.false_eq_true, ↓reduceIte]
  exact h

example : "a,,b".splitOn "," = ["a", "", "b"] := by
  rw [show "," = String.singleton ',' from rfl, splitOn_singleton]
  decide

end Split

/-! ## Feature names -/

/-- A listed name as it is compared: without the Unicode whitespace around it, in lower
case. -/
def featureName (raw : String) : String := Text.lower (Text.trimBlank raw)

/-- The names a value of the features variable lists, as they are compared: its pieces
between commas. -/
def listedFeatures (value : String) : List String :=
  (value.toList.splitOn ',').map fun piece => featureName (String.ofList piece)

theorem listedFeatures_eq (value : String) :
    listedFeatures value = (value.splitOn ",").map featureName := by
  rw [listedFeatures, show "," = String.singleton ',' from rfl, splitOn_singleton, List.map_map,
    Function.comp_def]

theorem featureName_of_blank {raw : String} (h : ∀ c ∈ raw.toList, Text.isBlank c = true) :
    featureName raw = "" := by
  have htrim : Text.trimBlank raw = "" := by
    simp [Text.trimBlank, List.dropWhile_eq_nil_iff.mpr h]
  rw [featureName, htrim]
  rfl

theorem listedFeatures_of_blank {value : String} (h : ∀ c ∈ value.toList, Text.isBlank c = true) :
    listedFeatures value = [""] := by
  have hcomma : ',' ∉ value.toList := fun hc => absurd (h ',' hc) (by decide)
  simp [listedFeatures, List.splitOn_eq_singleton hcomma, featureName_of_blank h]

namespace Capability

theorem name_ne_empty (c : Capability) : c.name ≠ "" := by
  cases c <;> decide

theorem name_inj {c d : Capability} : c.name = d.name ↔ c = d := by
  cases c <;> cases d <;> decide

theorem exists_name_eq_iff {t : String} : (∃ c : Capability, c.name = t) ↔ t = "git" ∨ t = "bench" := by
  constructor
  · rintro ⟨c, rfl⟩
    cases c <;> simp [name]
  · rintro (rfl | rfl)
    exacts [⟨.git, rfl⟩, ⟨.bench, rfl⟩]

theorem ofName?_name (c : Capability) : ofName? c.name = some c := by
  cases c <;> rfl

theorem ofName?_eq_none {t : String} (hgit : t ≠ "git") (hbench : t ≠ "bench") :
    ofName? t = none := by
  have h : ∀ c : Capability, c.name ≠ t := fun c hc =>
    (exists_name_eq_iff.mp ⟨c, hc⟩).elim hgit hbench
  simp [ofName?, List.find?_eq_none, h]

end Capability

namespace CapabilitySet

@[simp] theorem contains_empty (c : Capability) : empty.contains c = false := by
  cases c <;> rfl

@[simp] theorem contains_insert (s : CapabilitySet) (c d : Capability) :
    (s.insert c).contains d = (d == c || s.contains d) := by
  cases c <;> cases d <;> simp [insert, contains]

/-- A set is known by the capabilities it contains. -/
theorem ext_contains {s t : CapabilitySet} (h : ∀ c, s.contains c = t.contains c) : s = t := by
  obtain ⟨git, bench⟩ := s
  obtain ⟨git', bench'⟩ := t
  have hgit := h .git
  have hbench := h .bench
  simp only [contains] at hgit hbench
  rw [hgit, hbench]

/-! ### One more name -/

theorem ofNames_append_blank (names : List String) {raw : String} (h : featureName raw = "") :
    ofNames (names ++ [raw]) = ofNames names := by
  unfold ofNames
  rw [List.foldlM_append]
  simp only [featureName] at h
  simp [h]

theorem ofNames_append_name (names : List String) {raw : String} {c : Capability}
    (h : featureName raw = c.name) :
    ofNames (names ++ [raw]) = (fun s => s.insert c) <$> ofNames names := by
  unfold ofNames
  rw [List.foldlM_append]
  simp only [featureName] at h
  simp [h, String.isEmpty_iff, c.name_ne_empty, c.ofName?_name]

theorem ofNames_append_unknown {names : List String} {raw : String} {s : CapabilitySet}
    (hs : ofNames names = .ok s) (hne : featureName raw ≠ "") (hgit : featureName raw ≠ "git")
    (hbench : featureName raw ≠ "bench") :
    ofNames (names ++ [raw]) = .error (unknownFeature (featureName raw)) := by
  unfold ofNames at hs ⊢
  rw [List.foldlM_append, hs]
  simp only [featureName] at hne hgit hbench ⊢
  simp [String.isEmpty_iff, hne, Capability.ofName?_eq_none hgit hbench]
  rfl

theorem ofNames_append_of_error {names : List String} {e : CliError}
    (h : ofNames names = .error e) (more : List String) : ofNames (names ++ more) = .error e := by
  unfold ofNames at h ⊢
  rw [List.foldlM_append, h]
  rfl

/-! ### A whole list of names -/

/-- Names that are each blank, `git` or `bench` enable exactly the capabilities named. -/
theorem ofNames_of_known (names : List String)
    (h : ∀ t ∈ names.map featureName, t ≠ "" → t = "git" ∨ t = "bench") :
    ∃ s, ofNames names = .ok s ∧ ∀ c, s.contains c = true ↔ c.name ∈ names.map featureName := by
  -- the fold reads from the left, so the list grows at its end
  induction names using List.reverseRecOn with
  | nil => exact ⟨empty, rfl, by simp⟩
  | append_singleton names raw ih =>
    obtain ⟨s, hs, hmem⟩ := ih fun t ht => h t (by simp [ht])
    by_cases hblank : featureName raw = ""
    · refine ⟨s, by rw [ofNames_append_blank names hblank, hs], fun c => ?_⟩
      simp [hmem, hblank, c.name_ne_empty]
    · obtain ⟨d, hd⟩ := Capability.exists_name_eq_iff.mpr (h (featureName raw) (by simp) hblank)
      refine ⟨s.insert d, by rw [ofNames_append_name names hd.symm, hs]; rfl, fun c => ?_⟩
      simp [hmem, ← hd, Capability.name_inj, or_comm]

/-- The first name that is neither blank, `git` nor `bench` is refused. -/
theorem ofNames_first_unknown {pre post : List String} {raw : String}
    (hpre : ∀ t ∈ pre.map featureName, t = "" ∨ t = "git" ∨ t = "bench")
    (hne : featureName raw ≠ "") (hgit : featureName raw ≠ "git")
    (hbench : featureName raw ≠ "bench") :
    ofNames (pre ++ raw :: post) = .error (unknownFeature (featureName raw)) := by
  have hknown : ∀ t ∈ pre.map featureName, t ≠ "" → t = "git" ∨ t = "bench" :=
    fun t ht hne => (hpre t ht).resolve_left hne
  obtain ⟨s, hs, -⟩ := ofNames_of_known pre hknown
  rw [← List.singleton_append, ← List.append_assoc]
  exact ofNames_append_of_error (ofNames_append_unknown hs hne hgit hbench) post

/-! ### The variable -/

theorem ofVariable_listed (value : String)
    (h : ∀ t ∈ listedFeatures value, t ≠ "" → t = "git" ∨ t = "bench") :
    ∃ s, ofVariable (some value) = .ok s ∧ ∀ c, s.contains c = true ↔ c.name ∈ listedFeatures value := by
  rw [listedFeatures_eq] at h ⊢
  exact ofNames_of_known _ h

/-- A value whose names are all blank or known reads as every value that lists the same names,
blank ones apart, whatever their order, repetition, surrounding whitespace and case. -/
theorem ofVariable_congr {v w : String}
    (hv : ∀ t ∈ listedFeatures v, t ≠ "" → t = "git" ∨ t = "bench")
    (hsame : ∀ t, t ≠ "" → (t ∈ listedFeatures v ↔ t ∈ listedFeatures w)) :
    ofVariable (some v) = ofVariable (some w) := by
  have hw : ∀ t ∈ listedFeatures w, t ≠ "" → t = "git" ∨ t = "bench" :=
    fun t ht hne => hv t ((hsame t hne).2 ht) hne
  obtain ⟨s, hs, hsc⟩ := ofVariable_listed v hv
  obtain ⟨s', hs', hsc'⟩ := ofVariable_listed w hw
  have hcontains : ∀ c, s.contains c = s'.contains c := by
    intro c
    rw [Bool.eq_iff_iff, hsc, hsc', hsame c.name c.name_ne_empty]
  rw [hs, hs', ext_contains hcontains]

/-- A value made only of whitespace enables nothing. -/
theorem ofVariable_blank {value : String} (h : ∀ c ∈ value.toList, Text.isBlank c = true) :
    ofVariable (some value) = .ok empty := by
  obtain ⟨s, hs, hsc⟩ := ofVariable_listed value (by simp [listedFeatures_of_blank h])
  have hnone : ∀ c, s.contains c = empty.contains c := by
    intro c
    rw [contains_empty, Bool.eq_false_iff, ne_eq, hsc, listedFeatures_of_blank h,
      List.mem_singleton]
    exact c.name_ne_empty
  rw [hs, ext_contains hnone]

/-- A value with a name that is neither blank, `git` nor `bench` is refused for the first such
name. -/
theorem ofVariable_first_unknown {value : String}
    (h : ∃ t ∈ listedFeatures value, t ≠ "" ∧ t ≠ "git" ∧ t ≠ "bench") :
    ∃ pre t post, listedFeatures value = pre ++ t :: post ∧
      (∀ u ∈ pre, u = "" ∨ u = "git" ∨ u = "bench") ∧ t ≠ "" ∧ t ≠ "git" ∧ t ≠ "bench" ∧
      ofVariable (some value) = .error (unknownFeature t) := by
  -- the first offending name, and the names before it
  obtain ⟨t, ht, hbad⟩ := h
  obtain ⟨t, pre, post, hpre, hbad, hsplit, -⟩ :=
    @List.exists_of_eraseP _ (fun t => decide (t ≠ "" ∧ t ≠ "git" ∧ t ≠ "bench")) _ _ ht
      (decide_eq_true hbad)
  simp only [decide_eq_true_eq] at hpre hbad
  obtain ⟨hne, hgit, hbench⟩ := hbad
  have hpre' : ∀ u ∈ pre, u = "" ∨ u = "git" ∨ u = "bench" := by
    intro u hu
    have := hpre u hu
    tauto
  refine ⟨pre, t, post, hsplit, hpre', hne, hgit, hbench, ?_⟩
  -- the pieces of the value that these names come from
  rw [listedFeatures_eq] at hsplit
  obtain ⟨raws, rest, hraws, rfl, hrest⟩ := List.map_eq_append_iff.mp hsplit
  obtain ⟨raw, post', rfl, rfl, -⟩ := List.map_eq_cons_iff.mp hrest
  show ofNames (value.splitOn ",") = _
  rw [hraws]
  exact ofNames_first_unknown hpre' hne hgit hbench

end CapabilitySet

/-- What reading the features variable does with each of its values. -/
structure ReadsFeatures (read : Option String → Except CliError CapabilitySet) : Prop where
  /-- Unset, the variable gives the standard build: `git` alone. -/
  unset : ∃ s, read none = .ok s ∧ ∀ c, s.contains c = true ↔ c = .git
  /-- When every listed name that is not blank is `git` or `bench`, the set is exactly the
  capabilities listed. -/
  listed : ∀ value, (∀ t ∈ listedFeatures value, t ≠ "" → t = "git" ∨ t = "bench") →
    ∃ s, read (some value) = .ok s ∧ ∀ c, s.contains c = true ↔ c.name ∈ listedFeatures value
  /-- Such a value reads as every value that lists the same names, blank ones apart: the
  order, repetition, surrounding whitespace and letter case of the names do not matter. -/
  same : ∀ v w, (∀ t ∈ listedFeatures v, t ≠ "" → t = "git" ∨ t = "bench") →
    (∀ t, t ≠ "" → (t ∈ listedFeatures v ↔ t ∈ listedFeatures w)) → read (some v) = read (some w)
  /-- An empty or all-blank value enables nothing. -/
  blank : ∀ value, (∀ c ∈ value.toList, Text.isBlank c = true) → read (some value) = .ok .empty
  /-- Any other value is refused with the configuration error `Unknown feature '<t>'`, for
  the first listed name `t` that is neither blank, `git` nor `bench`. -/
  refused : ∀ value, (∃ t ∈ listedFeatures value, t ≠ "" ∧ t ≠ "git" ∧ t ≠ "bench") →
    ∃ pre t post, listedFeatures value = pre ++ t :: post ∧
      (∀ u ∈ pre, u = "" ∨ u = "git" ∨ u = "bench") ∧ t ≠ "" ∧ t ≠ "git" ∧ t ≠ "bench" ∧
      read (some value) = .error (CapabilitySet.unknownFeature t)

theorem features_variable_read : ReadsFeatures CapabilitySet.ofVariable where
  unset := ⟨.standard, rfl, fun c => by cases c <;> decide⟩
  listed := CapabilitySet.ofVariable_listed
  same _ _ := CapabilitySet.ofVariable_congr
  blank _ := CapabilitySet.ofVariable_blank
  refused _ := CapabilitySet.ofVariable_first_unknown

end CommandLine
