import CommandLine.Proofs.PrintedText

/-!
# The two renderings of an error

An error is reported from what it says (`Report`): a lead naming its kind, its message, its
context entries and its suggestions. The plain rendering writes the report as one paragraph
(`Fault.format_eq_paragraph`). The rich rendering, used for a front-end error on a console
that is a terminal (the choice `always`, or a real terminal whatever the choice), draws it
line by line: the lead and the message, a line per context entry and a hint per suggestion
(`CliError.styledLines_eq`). Any other fault is written plain on every console.

On a terminal that shows the lines as they are, the drawn report is the report's lines, in
colors when the console writes them and as they are when it does not
(`Ui.printError_terminal_writes`): the two renderings say the same things in the same order
(`error_renderings_agree`). Two things still set them apart. The rich rendering leads every
front-end error with `Error: `, internal ones included, where the plain one says
`Internal error: `; and drawing drops the control characters that appending text drops, and
lays the lines out.
-/

namespace CommandLine

open Terminal

/-- What an error report says, in order. -/
structure Report where
  lead : String
  message : String
  context : List (String × String)
  suggestions : List String

namespace Report

/-- The plain rendering: the lead and the message, then a context block and a suggestions
block, each left out when it would be empty. -/
def paragraph (r : Report) : String :=
  r.lead ++ r.message ++
    (if r.context.isEmpty then ""
      else "\n\nContext:" ++ String.join (r.context.map fun (k, v) => "\n  " ++ k ++ ": " ++ v)) ++
    (if r.suggestions.isEmpty then ""
      else "\n\nSuggestions:" ++ String.join (r.suggestions.map fun s => "\n  - " ++ s))

/-- The lines of the rich rendering: the lead and the message, a line per context entry, a
hint per suggestion. -/
def lines (r : Report) : List String :=
  [r.lead ++ r.message] ++ r.context.map (fun (k, v) => "  " ++ k ++ ": " ++ v) ++
    r.suggestions.map ("Hint: " ++ ·)

/-- The lines of the rich rendering with their styles. -/
def styled (r : Report) : List Styled :=
  [Styled.labelled r.lead "bold red" r.message] ++
    r.context.map (fun (k, v) => ((({} : Styled).append "  ").append (k ++ ": ") "dim").append v) ++
    r.suggestions.map fun s => (Styled.labelled "Hint: " "bold cyan" "").append s

theorem styled_plain (r : Report) : r.styled.map (·.plain) = r.lines.map sanitize := by
  simp [styled, lines, Styled.labelled, Function.comp_def, sanitize_append, String.append_assoc]

/-- The drawn lines carry the styles of their labels and keys. -/
theorem styled_stylesIn (r : Report) : ∀ l ∈ r.styled, l.StylesIn Style.Resolves := by
  have hred : Style.Resolves "bold red" := by decide +kernel
  have hdim : Style.Resolves "dim" := by decide +kernel
  have hcyan : Style.Resolves "bold cyan" := by decide +kernel
  intro l hl
  simp only [styled, List.mem_append, List.mem_singleton, List.mem_map] at hl
  rcases hl with (rfl | ⟨⟨k, v⟩, -, rfl⟩) | ⟨s, -, rfl⟩
  · exact Styled.stylesIn_labelled _ _ hred
  · exact ((Styled.stylesIn_empty.append_plain _).append _ hdim).append_plain _
  · exact (Styled.stylesIn_labelled _ _ hcyan).append_plain _

end Report

def CliError.report (e : CliError) (lead : String) : Report :=
  ⟨lead, e.message, e.context.map (fun (k, v) => (k, v.display)), e.suggestions.map (·.display)⟩

/-- What a fault's plain report says: a front-end error leads with its kind, internal or
not; any other fault with its class name. -/
def Fault.report : Fault → Report
  | .cli e => e.report (if e.kind.isInternal then "Internal error: " else "Error: ")
  | f => ⟨"Error: " ++ f.className ++ ": ", f.text, [], []⟩

theorem Fault.format_eq_paragraph (f : Fault) : f.format = f.report.paragraph := by
  cases f with
  | cli e =>
    simp [format, report, CliError.report, Report.paragraph, CliError.text, Function.comp_def,
      String.append_assoc]
  | runtime | exit | interrupt => simp [format, report, Report.paragraph]

/-- Suggestions that are texts. -/
def CliError.TextSuggestions (e : CliError) : Prop := ∀ s ∈ e.suggestions, ∃ t, s = .str t

/-- A front-end error whose suggestions are texts is drawn as its report led by `Error: `. -/
theorem CliError.styledLines_eq {e : CliError} (h : e.TextSuggestions) :
    e.styledLines = .ok (e.report "Error: ").styled := by
  have hhints : e.suggestions.mapM (labelledValue "Hint: " "bold cyan") =
      .ok (e.suggestions.map fun s => (Styled.labelled "Hint: " "bold cyan" "").append s.display) :=
    Except.mapM_eq_ok_map fun s hs => by
      obtain ⟨t, rfl⟩ := h s hs
      rfl
  simp only [styledLines, hhints, report, Report.styled, List.map_map]
  rfl

/-- On a console with room, a front-end error whose suggestions are texts is drawn line by
line. -/
theorem CliError.styledReport_eq {c : Console} (hw : c.width ≠ 0) {e : CliError}
    (h : e.TextSuggestions) :
    e.styledReport c = .ok (String.join ((e.report "Error: ").styled.map fun l => c.render l)) := by
  have hnone : ((e.report "Error: ").styled.findSome? c.failingComponent?) = none :=
    List.findSome?_eq_none_iff.mpr fun l hl =>
      c.failingComponent?_eq_none ((e.report "Error: ").styled_stylesIn l hl)
  simp only [styledReport, hw, if_false, styledLines_eq h]
  dsimp only [bind, Except.bind]
  rw [hnone]
  rfl

/-! ## Writing text in colors -/

namespace Terminal

theorem WrittenInColors.append {a b x y : String} (h₁ : WrittenInColors a x)
    (h₂ : WrittenInColors b y) : WrittenInColors (a ++ b) (x ++ y) := by
  obtain ⟨p₁, hx, hp₁, rfl⟩ := h₁
  obtain ⟨p₂, hy, hp₂, rfl⟩ := h₂
  refine ⟨p₁ ++ p₂, ?_, fun p hp => ?_, ?_⟩
  · rw [List.map_append, String.join_append, hx, hy]
  · rcases List.mem_append.mp hp with hp | hp
    · exact hp₁ p hp
    · exact hp₂ p hp
  · rw [List.map_append, String.join_append]

theorem writtenInColors_join {α : Type} {f g : α → String} :
    ∀ {l : List α}, (∀ a ∈ l, WrittenInColors (f a) (g a)) →
      WrittenInColors (String.join (l.map f)) (String.join (l.map g))
  | [], _ => ⟨[], rfl, by simp, rfl⟩
  | a :: l, h => by
    simp only [List.map_cons, String.join_cons]
    exact (h a List.mem_cons_self).append
      (writtenInColors_join fun b hb => h b (List.mem_cons_of_mem a hb))

theorem writtenInColors_self (s : String) : WrittenInColors s s :=
  ⟨[(s, "")], by simp, by simp [SgrParams], by simp [sgrWrap]⟩

theorem Console.render_line_uncolored {c : Console} (hw : c.width ≠ 0) (hc : c.colored = false)
    {l : Styled} (hlays : c.LaysOutAsIs l.plain) : c.render l = l.plain ++ "\n" := by
  rw [Console.render_uncolored hw hc, c.layout_plain hlays]

/-- A console that shows a line as it is writes it in colors, or as it is without them. -/
theorem Console.render_line_written {c : Console} (hw : c.width ≠ 0) {l : Styled}
    (hlays : c.LaysOutAsIs l.plain) : WrittenInColors (c.render l) (l.plain ++ "\n") := by
  cases hc : c.colored with
  | true =>
    have := Console.render_colored hw hc l "\n"
    rwa [c.layout_plain hlays] at this
  | false =>
    rw [Console.render_line_uncolored hw hc hlays]
    exact writtenInColors_self _

/-- A single line without tabs that fits the console is shown as it is. -/
theorem Console.laysOutAsIs_of_fits {c : Console} {s : String} (hfeed : '\n' ∉ s.toList)
    (htab : '\t' ∉ s.toList) (hfit : s.length ≤ c.width) : c.LaysOutAsIs s := by
  intro line hline
  rw [List.splitOn_eq_splitOnP, List.splitOnP_eq_singleton (beq_feed_of_not_mem hfeed),
    List.mem_singleton] at hline
  subst hline
  exact ⟨htab, .inl (by rwa [String.length_toList])⟩

end Terminal

section Drawing

variable {c : Console} {r : Report} (hlines : ∀ line ∈ r.lines, Unstripped line ∧ c.LaysOutAsIs line)
include hlines

theorem Report.styled_plain_of_kept : r.styled.map (·.plain) = r.lines := by
  rw [r.styled_plain]
  exact (List.map_congr_left fun line hline => sanitize_eq_self (hlines line hline).1).trans
    (List.map_id' _)

theorem Report.lines_feed_eq : r.lines.map (· ++ "\n") = r.styled.map (·.plain ++ "\n") := by
  rw [← Report.styled_plain_of_kept hlines, List.map_map]
  rfl

theorem Report.laysOutAsIs_styled : ∀ l ∈ r.styled, c.LaysOutAsIs l.plain := fun _ hl =>
  (hlines _ (Report.styled_plain_of_kept hlines ▸ List.mem_map_of_mem hl)).2

/-- Lines that a console shows as they are, drawn on it, are the lines, in colors when the
console writes them. -/
theorem Report.render_styled (hw : c.width ≠ 0) :
    WrittenInColors (String.join (r.styled.map fun l => c.render l))
      (String.join (r.lines.map (· ++ "\n"))) := by
  rw [Report.lines_feed_eq hlines]
  exact writtenInColors_join fun l hl =>
    Console.render_line_written hw (Report.laysOutAsIs_styled hlines l hl)

theorem Report.render_styled_uncolored (hw : c.width ≠ 0) (hc : c.colored = false) :
    String.join (r.styled.map fun l => c.render l) = String.join (r.lines.map (· ++ "\n")) := by
  rw [Report.lines_feed_eq hlines]
  congr 1
  exact List.map_congr_left fun l hl =>
    Console.render_line_uncolored hw hc (Report.laysOutAsIs_styled hlines l hl)

end Drawing

/-! ## Reporting an error -/

namespace Ui

variable (u : Ui)

theorem printError_plain (ht : u.isTerminal = false) (f : Fault) (o : Output) :
    (printError u f).run.run o =
      (.ok (), { o with writes := o.writes.push (.err, f.report.paragraph ++ "\n") }) := by
  rw [← Fault.format_eq_paragraph]
  unfold printError
  cases f <;> simp only [Bool.false_eq_true, if_false, ht] <;> rfl

/-- A fault other than a front-end error is written plain on every console. -/
theorem printError_not_cli {f : Fault} (hf : ∀ e, f ≠ .cli e) (o : Output) :
    (printError u f).run.run o =
      (.ok (), { o with writes := o.writes.push (.err, f.report.paragraph ++ "\n") }) := by
  rw [← Fault.format_eq_paragraph]
  unfold printError
  cases f with
  | cli e => exact absurd rfl (hf e)
  | runtime | exit | interrupt => rfl

/-- On a terminal, a front-end error whose suggestions are texts is drawn. -/
theorem printError_terminal (ht : u.isTerminal = true) (hwidth : 0 < u.columns)
    {e : CliError} (h : e.TextSuggestions) (o : Output) :
    (printError u (.cli e)).run.run o = (.ok (), { o with writes := o.writes.push (.err,
      String.join ((e.report "Error: ").styled.map fun l => u.console.render l)) }) := by
  have hw : u.console.width ≠ 0 := Nat.pos_iff_ne_zero.mp hwidth
  unfold printError
  simp only [Bool.false_eq_true, if_false, ht, if_true, CliError.styledReport_eq hw h]
  rfl

/-- On a terminal that shows its lines as they are, a front-end error whose suggestions are
texts is written as the lines of its report led by `Error: `: in colors, or as they are when
the console writes none. -/
theorem printError_terminal_writes (ht : u.isTerminal = true) (hwidth : 0 < u.columns)
    {e : CliError} (h : e.TextSuggestions)
    (hlines : ∀ line ∈ (e.report "Error: ").lines, Unstripped line ∧ u.console.LaysOutAsIs line)
    (o : Output) :
    ∃ out, (printError u (.cli e)).run.run o =
        (.ok (), { o with writes := o.writes.push (.err, out) }) ∧
      WrittenInColors out (String.join ((e.report "Error: ").lines.map (· ++ "\n"))) ∧
      (u.console.colored = false →
        out = String.join ((e.report "Error: ").lines.map (· ++ "\n"))) :=
  have hw : u.console.width ≠ 0 := Nat.pos_iff_ne_zero.mp hwidth
  ⟨_, u.printError_terminal ht hwidth h o, Report.render_styled hlines hw,
    Report.render_styled_uncolored hlines hw⟩

end Ui

/-! ## The renderings agree -/

/-- What the plain and the rich rendering of a fault say. -/
structure RenderingsAgree (f : Fault) : Prop where
  /-- Off a terminal, the report is written as a paragraph. -/
  plain : ∀ u : Ui, u.isTerminal = false → ∀ o : Output,
    (printError u f).run.run o =
      (.ok (), { o with writes := o.writes.push (.err, f.report.paragraph ++ "\n") })
  /-- A fault other than a front-end error is written as a paragraph on every console. -/
  other : (∀ e, f ≠ .cli e) → ∀ (u : Ui) (o : Output),
    (printError u f).run.run o =
      (.ok (), { o with writes := o.writes.push (.err, f.report.paragraph ++ "\n") })
  /-- On a terminal, a front-end error that is not internal and whose suggestions are texts
  is written as the lines of the same report, when the console shows them as they are: in
  colors, or as they are on a console without colors. -/
  rich : ∀ e, f = .cli e → e.kind.isInternal = false → e.TextSuggestions →
    ∀ u : Ui, u.isTerminal = true → 0 < u.columns →
    (∀ line ∈ f.report.lines, Unstripped line ∧ u.console.LaysOutAsIs line) → ∀ o : Output,
      ∃ out, (printError u f).run.run o = (.ok (), { o with writes := o.writes.push (.err, out) }) ∧
        WrittenInColors out (String.join (f.report.lines.map (· ++ "\n"))) ∧
        (u.console.colored = false → out = String.join (f.report.lines.map (· ++ "\n")))
  /-- On a terminal, an internal error is drawn with the lead `Error: `. -/
  rich_internal : ∀ e, f = .cli e → e.kind.isInternal = true → e.TextSuggestions →
    ∀ u : Ui, u.isTerminal = true → 0 < u.columns →
    (∀ line ∈ (e.report "Error: ").lines, Unstripped line ∧ u.console.LaysOutAsIs line) →
    ∀ o : Output,
      ∃ out, (printError u f).run.run o = (.ok (), { o with writes := o.writes.push (.err, out) }) ∧
        WrittenInColors out (String.join ((e.report "Error: ").lines.map (· ++ "\n"))) ∧
        (u.console.colored = false →
          out = String.join ((e.report "Error: ").lines.map (· ++ "\n")))

theorem Fault.report_cli_of_not_internal {e : CliError} (h : e.kind.isInternal = false) :
    (Fault.cli e).report = e.report "Error: " := by
  simp [report, h]

theorem error_renderings_agree (f : Fault) : RenderingsAgree f where
  plain u ht o := u.printError_plain ht f o
  other hf u o := u.printError_not_cli hf o
  rich e hf hinternal htexts u ht hwidth hlines o := by
    subst hf
    rw [Fault.report_cli_of_not_internal hinternal] at hlines ⊢
    exact u.printError_terminal_writes ht hwidth htexts hlines o
  rich_internal e hf _ htexts u ht hwidth hlines o := by
    subst hf
    exact u.printError_terminal_writes ht hwidth htexts hlines o

/-- An internal error is drawn with the lead of any other error. -/
theorem internal_error_drawn_as_error :
    (printError { color := "never" } (.cli { kind := .dispatch, message := "no arm" })).run.run
        default = (.ok (), { (default : Output) with writes := #[(.err, "Internal error: no arm\n")] }) ∧
      ∃ out, (printError { color := "always" } (.cli { kind := .dispatch, message := "no arm" })).run.run
          default = (.ok (), { (default : Output) with writes := #[(.err, out)] }) ∧
        WrittenInColors out "Error: no arm\n" := by
  refine ⟨?_, ?_⟩
  · rw [Ui.printError_plain _ rfl]
    rfl
  · have hline : Unstripped "Error: no arm" ∧
        ({ color := "always" } : Ui).console.LaysOutAsIs "Error: no arm" :=
      ⟨by simp [Unstripped, strippedControl],
        Console.laysOutAsIs_of_fits (by simp) (by simp) (by decide)⟩
    obtain ⟨out, hrun, hout, -⟩ := Ui.printError_terminal_writes { color := "always" } rfl
      (by decide) (e := { kind := .dispatch, message := "no arm" })
      (by simp [CliError.TextSuggestions]) (by simpa [CliError.report, Report.lines] using hline)
      default
    exact ⟨out, hrun, by simpa [CliError.report, Report.lines] using hout⟩

end CommandLine
