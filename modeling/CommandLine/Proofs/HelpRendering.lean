import CommandLine.Proofs.Routing

/-!
# Printing help and errors

Printing a styled text fails only on a span whose style has an `rgb(...)` component that is not
a whole number (`Console.failingComponent?`). The console lays the text out before it prints
it: lines are cut, tabs expanded, trailing blanks cropped and the lines joined again. Every
step of the layout keeps the style of each span it keeps; a piece of a span keeps its style and
no span is given a new one (`Styled.StylesIn`). The spans of a styled help page carry the four
help styles, and those of a labelled line its label's style. So a page or a line whose styles
all resolve prints, whatever its text and whatever the console.

A write goes to one channel only: writing to standard error leaves what standard output has
received as it was.

Laying a text out keeps its styles (`Console.layout_stylesIn`). So a help page in styles that
resolve is printed to standard output (`Ui.printHelp_run`), and a usage error without a usage
line to standard error, as its error line and then one line per hint (`Ui.printUsageError_run`).
-/

namespace CommandLine

namespace Terminal

/-- A style that resolves: applying it never fails. -/
def Style.Resolves (style : String) : Prop := Style.failingComponent? style = none

instance : DecidablePred Style.Resolves := fun style =>
  inferInstanceAs (Decidable (Style.failingComponent? style = none))

/-- Membership in a list with a separator put between its items. -/
theorem mem_of_mem_intersperse {α : Type} {sep x : α} :
    ∀ {l : List α}, x ∈ l.intersperse sep → x = sep ∨ x ∈ l
  | [], h => by simp at h
  | [a], h => .inr (by simpa using h)
  | a :: b :: l, h => by
    rw [List.intersperse_cons_cons, List.mem_cons, List.mem_cons] at h
    rcases h with rfl | rfl | h
    · exact .inr List.mem_cons_self
    · exact .inl rfl
    · rcases mem_of_mem_intersperse h with h | h
      · exact .inl h
      · exact .inr (List.mem_cons_of_mem a h)

/-- Each of the four help styles satisfies the predicate. -/
def HelpStyles.Each (P : String → Prop) (styles : HelpStyles) : Prop :=
  P styles.header ∧ P styles.usage ∧ P styles.literal ∧ P styles.placeholder

instance {P : String → Prop} [DecidablePred P] (styles : HelpStyles) : Decidable (styles.Each P) :=
  inferInstanceAs (Decidable (_ ∧ _ ∧ _ ∧ _))

namespace Styled

/-- Every span of a styled text carries a style the predicate accepts. -/
def StylesIn (P : String → Prop) (t : Styled) : Prop := ∀ sp ∈ t.spans, P sp.style

variable {P : String → Prop} {t : Styled}

theorem stylesIn_empty : StylesIn P {} := by simp [StylesIn]

/-! ## Building a text -/

theorem StylesIn.append (ht : StylesIn P t) (piece : String) {style : String} (hstyle : P style) :
    StylesIn P (t.append piece style) := by
  intro sp hsp
  unfold Styled.append at hsp
  split at hsp
  · exact ht sp hsp
  · dsimp only at hsp
    split at hsp
    · exact ht sp hsp
    · rcases List.mem_append.mp hsp with h | h
      · exact ht sp h
      · rw [List.mem_singleton.mp h]
        exact hstyle

theorem StylesIn.append_plain (ht : StylesIn P t) (piece : String) : StylesIn P (t.append piece) := by
  intro sp hsp
  unfold Styled.append at hsp
  split at hsp
  · exact ht sp hsp
  · exact ht sp (by simpa using hsp)

theorem stylesIn_ofString (s : String) : StylesIn P (ofString s) := stylesIn_empty.append_plain s

theorem stylesIn_labelled (label rest : String) {style : String} (hstyle : P style) :
    StylesIn P (labelled label style rest) :=
  (stylesIn_empty.append label hstyle).append_plain rest

theorem StylesIn.highlightPlaceholders (ht : StylesIn P t) {style : String} (hstyle : P style) :
    StylesIn P (t.highlightPlaceholders style) := by
  unfold Styled.highlightPlaceholders
  split
  · exact ht
  · intro sp hsp
    rcases List.mem_append.mp hsp with h | h
    · exact ht sp h
    · obtain ⟨_, -, rfl⟩ := List.mem_map.mp h
      exact hstyle

/-! ## Laying a text out -/

theorem StylesIn.slice (ht : StylesIn P t) (a b : Nat) : StylesIn P (t.slice a b) := by
  intro sp hsp
  obtain ⟨s, hs, hsome⟩ := List.mem_filterMap.mp hsp
  dsimp only at hsome
  split at hsome
  · cases hsome
    exact ht s hs
  · cases hsome

theorem StylesIn.divide (ht : StylesIn P t) (cuts : List Nat) : ∀ u ∈ t.divide cuts, StylesIn P u := by
  intro u hu
  obtain ⟨⟨a, b⟩, -, rfl⟩ := List.mem_map.mp hu
  exact ht.slice a b

/-- Joining texts keeps the styles of their spans. -/
theorem stylesIn_concat {ts : List Styled} (h : ∀ u ∈ ts, StylesIn P u) : StylesIn P (concat ts) := by
  unfold concat
  -- the text joined so far carries only spans of the texts before
  refine List.foldlRecOn (motive := StylesIn P) ts _ stylesIn_empty fun acc hacc u hu => ?_
  intro sp hsp
  rcases List.mem_append.mp hsp with hsp | hsp
  · exact hacc sp hsp
  · obtain ⟨s, hs, rfl⟩ := List.mem_map.mp hsp
    exact h u hu s hs

theorem StylesIn.lines (ht : StylesIn P t) : ∀ u ∈ t.lines, StylesIn P u := by
  intro u hu
  unfold Styled.lines at hu
  dsimp only at hu
  split at hu
  · rw [List.mem_singleton.mp hu]
    exact ht
  · exact ht.divide _ u (List.mem_filter.mp hu).1

theorem StylesIn.extendStyle (ht : StylesIn P t) (n : Nat) : StylesIn P (t.extendStyle n) := by
  unfold Styled.extendStyle
  split
  · exact ht
  · intro sp hsp
    obtain ⟨s, hs, rfl⟩ := List.mem_map.mp hsp
    split
    · exact ht s hs
    · exact ht s hs

theorem StylesIn.expandTabs (ht : StylesIn P t) (tabSize : Nat) : StylesIn P (t.expandTabs tabSize) := by
  unfold Styled.expandTabs
  dsimp only
  split
  · exact ht
  · apply stylesIn_concat
    -- each piece kept is a piece of the text, its tab perhaps replaced and spaces added
    refine List.foldlRecOn (motive := fun acc : List Styled × Nat => ∀ u ∈ acc.1, StylesIn P u)
      _ _ (by simp) fun acc hacc part hpart => ?_
    have hp : StylesIn P part := ht.divide _ part hpart
    obtain ⟨done, cell⟩ := acc
    intro u hu
    dsimp only at hu
    split at hu
    · split at hu
      · rcases List.mem_append.mp hu with hu | hu
        · exact hacc u hu
        · rw [List.mem_singleton.mp hu]
          exact hp
      · rcases List.mem_append.mp hu with hu | hu
        · exact hacc u hu
        · rw [List.mem_singleton.mp hu]
          apply StylesIn.extendStyle
          exact hp
    · rcases List.mem_append.mp hu with hu | hu
      · exact hacc u hu
      · rw [List.mem_singleton.mp hu]
        exact hp

theorem StylesIn.cropRight (ht : StylesIn P t) (n : Nat) : StylesIn P (t.cropRight n) := by
  intro sp hsp
  obtain ⟨s, hs, hsome⟩ := List.mem_filterMap.mp hsp
  split at hsome
  · cases hsome
    exact ht s hs
  · cases hsome

theorem StylesIn.cropTrailingBlank (ht : StylesIn P t) (width : Nat) :
    StylesIn P (t.cropTrailingBlank width) := by
  unfold Styled.cropTrailingBlank
  dsimp only
  split
  · exact ht
  · split
    · exact ht
    · exact ht.cropRight _

/-! ## Help pages -/

theorem StylesIn.helpLine {styles : HelpStyles} (hstyles : styles.Each P) (ht : StylesIn P t) (line : List Char) : StylesIn P (helpLine styles t line) := by
  obtain ⟨hheader, husage, hliteral, -⟩ := hstyles
  unfold Terminal.helpLine
  dsimp only
  split
  · exact (ht.append _ husage).append_plain _
  · split
    · exact ht.append _ hheader
    · split
      · exact ((ht.append_plain _).append _ hliteral).append_plain _
      · exact ht.append_plain _

theorem stylesIn_helpText {styles : HelpStyles} (hstyles : styles.Each P)
    (text : String) : StylesIn P (helpText text styles) := by
  unfold Terminal.helpText
  refine StylesIn.highlightPlaceholders ?_ hstyles.2.2.2
  exact List.foldlRecOn (motive := StylesIn P) _ _ stylesIn_empty fun t ht line _ =>
    StylesIn.helpLine hstyles ht line

end Styled

open Styled

/-- Laying a text out keeps the styles of its spans. -/
theorem Console.layout_stylesIn {P : String → Prop} (c : Console) {t : Styled} (ht : StylesIn P t) :
    StylesIn P (c.layout t) := by
  apply stylesIn_concat
  intro u hu
  rcases mem_of_mem_intersperse hu with rfl | hu
  · exact stylesIn_ofString "\n"
  · obtain ⟨l, hl, rfl⟩ := List.mem_map.mp hu
    exact ((ht.lines l hl).expandTabs 8).cropTrailingBlank c.width

theorem Console.failingComponent?_eq_none (c : Console) {t : Styled} (ht : StylesIn Style.Resolves t) :
    c.failingComponent? t = none := by
  unfold failingComponent?
  split
  · rfl
  · exact List.findSome?_eq_none_iff.mpr fun sp hsp => c.layout_stylesIn ht sp hsp

end Terminal

open Terminal

/-! ## Writing to the channels -/

namespace Output

theorem channel_push (o : Output) (d c : Channel) (s : String) :
    ({ o with writes := o.writes.push (d, s) } : Output).channel c =
      o.channel c ++ if d = c then s else "" := by
  by_cases h : d = c <;> simp [channel, h, List.filterMap_append, String.join_append]

theorem stdout_push_out (o : Output) (s : String) :
    ({ o with writes := o.writes.push (.out, s) } : Output).stdout = o.stdout ++ s := by
  rw [stdout, channel_push, if_pos rfl]
  rfl

theorem channel_append_other (o : Output) {d c : Channel} (h : d ≠ c) (texts : List String) :
    ({ o with writes := o.writes ++ (texts.map fun s => (d, s)).toArray } : Output).channel c =
      o.channel c := by
  simp only [channel, Array.toList_append, List.filterMap_append, List.filterMap_map,
    String.join_append, Function.comp_def, h, if_false]
  rw [List.filterMap_eq_nil_iff.mpr fun _ _ => rfl, String.join_nil, String.append_empty]

theorem channel_append_same (o : Output) (c : Channel) (texts : List String) :
    ({ o with writes := o.writes ++ (texts.map fun s => (c, s)).toArray } : Output).channel c =
      o.channel c ++ String.join texts := by
  simp only [channel, Array.toList_append, List.filterMap_append, List.filterMap_map, Function.comp_def,
    ↓reduceIte, List.filterMap_some, String.join_append]

end Output

@[simp] theorem Action.run_pure {α : Type} (a : α) (o : Output) :
    (pure a : Action α).run.run o = (.ok a, o) := rfl

theorem emit_run (c : Channel) (text : String) (o : Output) :
    (emit c text).run.run o = (.ok (), { o with writes := o.writes.push (c, text) }) := rfl

/-! ## Printing -/

theorem labelledValue_str (label style text : String) :
    labelledValue label style (.str text) = .ok ((Styled.labelled label style "").append text) := rfl

/-- A loop whose every round writes one piece to standard error and goes on writes the pieces
in order. -/
theorem forIn_writes {α : Type} {f : α → PUnit → Action (ForInStep PUnit)} (piece : α → String) :
    ∀ (l : List α), (∀ a ∈ l, ∀ o, (f a ⟨⟩).run.run o =
      (.ok (.yield ⟨⟩), { o with writes := o.writes.push (.err, piece a) })) →
    ∀ o, (forIn l ⟨⟩ f).run.run o =
      (.ok ⟨⟩, { o with writes := o.writes ++ (l.map fun a => (Channel.err, piece a)).toArray })
  | [], _, o => by
    rw [List.forIn_nil, List.map_nil, Array.append_empty]
    rfl
  | a :: l, hf, o => by
    rw [List.forIn_cons, Action.run_bind, hf a List.mem_cons_self o]
    dsimp only
    rw [forIn_writes piece l (fun b hb => hf b (List.mem_cons_of_mem a hb))]
    simp

namespace Ui

theorem present_of_stylesIn (u : Ui) {t : Styled} (ht : t.StylesIn Style.Resolves)
    (finish : String) : u.present t finish = pure (u.console.render t finish) := by
  unfold present
  rw [u.console.failingComponent?_eq_none ht]

/-- An error line in a style that resolves is written, rendered, to standard error. -/
theorem error_run (u : Ui) (hstyle : Style.Resolves u.styles.error) (message : String)
    (o : Output) :
    (u.error message).run.run o = (.ok (), { o with
      writes := o.writes.push (.err, u.console.render (Styled.labelled "Error: " u.styles.error message)) }) := by
  unfold error labelled
  rw [u.present_of_stylesIn (Styled.stylesIn_labelled _ _ hstyle), pure_bind]
  rfl

/-- A help page printed in help styles that resolve is written, rendered, to standard
output. -/
theorem printHelp_run (u : Ui) (text : String) {styles : Styles}
    (hstyles : (helpStyles styles).Each Style.Resolves) (o : Output) :
    (u.printHelp text styles).run.run o =
      (.ok (), { o with
        writes := o.writes.push (.out, u.console.render (helpText text (helpStyles styles)) "") }) := by
  unfold printHelp
  rw [u.present_of_stylesIn (Styled.stylesIn_helpText hstyles text), pure_bind]
  rfl

/-- A usage error whose hints are texts and that has no usage line is written to standard error
and to it only, in the error and hint styles when they resolve: the error line, then one line
per hint. -/
theorem printUsageError_run (u : Ui) (herror : Style.Resolves u.styles.error)
    (hhint : Style.Resolves u.styles.hint) {e : CliError} {hints : List String}
    (hsuggestions : e.suggestions = hints.map .str) (husage : e.usage = none) (o : Output) :
    ∃ o', (printUsageError u e).run.run o = (.ok (), o') ∧ o'.stdout = o.stdout ∧
      o'.stderr = o.stderr ++ u.console.render (Styled.labelled "Error: " u.styles.error e.message) ++
        String.join (hints.map fun h => u.console.render ((Styled.labelled "Hint: " u.styles.hint "").append h)) := by
  let piece (v : Value) : String := u.console.render ((Styled.labelled "Hint: " u.styles.hint "").append v.display)
  unfold printUsageError
  rw [Action.run_bind, u.error_run herror, hsuggestions]
  dsimp only
  rw [Action.run_bind, forIn_writes piece, husage]
  · have hpieces : ((hints.map Value.str).map fun a => (Channel.err, piece a)) =
        (hints.map fun h => u.console.render ((Styled.labelled "Hint: " u.styles.hint "").append h)).map
          fun s => (Channel.err, s) := by
      simp [piece, Value.display]
    refine ⟨_, rfl, ?_, ?_⟩
    · rw [Output.stdout, hpieces, Output.channel_append_other _ (by decide), Output.channel_push,
        if_neg (by decide), String.append_empty]
      rfl
    · rw [Output.stderr, hpieces, Output.channel_append_same, Output.channel_push, if_pos rfl]
      rfl
  · -- every hint is a text, so it is labelled as it is
    intro a ha o
    obtain ⟨h, -, rfl⟩ := List.mem_map.mp ha
    simp only [labelledValue_str, pure_bind]
    rw [u.present_of_stylesIn ((Styled.stylesIn_labelled _ _ hhint).append_plain h)]
    rfl

end Ui

end CommandLine
