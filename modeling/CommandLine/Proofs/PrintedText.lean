import CommandLine.Proofs.HelpRendering
import CommandLine.Proofs.HelpPage

/-!
# What printing writes

Styling a help page only adds spans. The styled page holds the page's own text, less the
control characters bell, backspace, vertical tab, form feed and carriage return that appending
text drops (`helpText_plain`); each line of the page is cut into pieces that join back to it
(`helpPieces`), and every span lies within the text (`spansWithin_helpText`).

A console prints a styled text by laying it out and then writing the pieces between span
boundaries. Laying out cuts the text at line feeds, expands tabs and crops the trailing blanks
of a line wider than the console, and nothing else: a text without tabs whose wide lines end in
something other than a blank is laid out as it is (`Console.layout_plain`). The
pieces join back to the laid-out text, so a console without colors writes that text
(`Console.render_uncolored`); a console with colors writes the same pieces, each wrapped in the
escape sequence of its styles (`Console.render_colored`). No line is ever broken, and nothing in
the text, markup or emoji codes, is read.

`printing_keeps_text` gathers these: a text a console can show as it is is written as it is.
-/

namespace CommandLine

namespace Terminal

/-! ## Appending text -/

theorem sanitize_append (a b : String) : sanitize (a ++ b) = sanitize a ++ sanitize b := by
  simp [sanitize, List.filter_append, String.ofList_append]

@[simp] theorem sanitize_empty : sanitize "" = "" := rfl

/-- A text without the control characters that appending drops. -/
def Unstripped (s : String) : Prop := ∀ c ∈ s.toList, strippedControl c = false

theorem sanitize_eq_self {s : String} (h : Unstripped s) : sanitize s = s := by
  rw [sanitize, List.filter_eq_self.mpr fun c hc => by simp [h c hc], String.ofList_toList]

namespace Styled

@[simp] theorem append_plain (t : Styled) (piece style : String) :
    (t.append piece style).plain = t.plain ++ sanitize piece := by
  unfold append
  split
  · next hempty => rw [String.isEmpty_iff.mp hempty, sanitize_empty, String.append_empty]
  · rfl

@[simp] theorem highlightPlaceholders_plain (t : Styled) (style : String) :
    (t.highlightPlaceholders style).plain = t.plain := by
  unfold highlightPlaceholders
  split <;> rfl

/-- Appending pieces one after the other adds their joined text. -/
theorem plain_foldl_append (pieces : List (String × String)) (t : Styled) :
    (pieces.foldl (fun t p => t.append p.1 p.2) t).plain =
      t.plain ++ sanitize (String.join (pieces.map (·.1))) := by
  induction pieces generalizing t with
  | nil => simp
  | cons p pieces ih =>
    rw [List.foldl_cons, ih, append_plain, List.map_cons, String.join_cons, sanitize_append,
      String.append_assoc]

end Styled

/-! ## Styling a help page -/

/-- The pieces a line of a help page is cut into, each with its style (empty for none): the word
`usage:` and the rest of a usage line; a heading whole; the indent, the first word and the rest
of an entry indented by two spaces; any other line whole. -/
def helpPieces (styles : HelpStyles) (line : List Char) : List (String × String) :=
  let text := String.ofList line
  let stripped := line.dropWhile (· = ' ')
  let indent := line.length - stripped.length
  if text.startsWith "usage:" then [("usage:", styles.usage), (String.ofList (line.drop 6), "")]
  else if indent = 0 ∧ (Text.trimBlankRight text).endsWith ":" then [(text, styles.header)]
  else if indent = 2 ∧ !(Text.trimBlank (String.ofList stripped)).isEmpty then
    let word := stripped.takeWhile (· ≠ ' ')
    [(String.ofList (line.take indent), ""), (String.ofList word, styles.literal),
      (String.ofList (stripped.drop word.length), "")]
  else [(text, "")]

/-- Styling a line appends its pieces in order. -/
theorem helpLine_eq_pieces (styles : HelpStyles) (t : Styled) (line : List Char) :
    helpLine styles t line = (helpPieces styles line).foldl (fun t p => t.append p.1 p.2) t := by
  unfold helpLine helpPieces
  dsimp only
  split
  · rfl
  · split
    · rfl
    · split <;> rfl

/-- A list without its leading run of some element is what follows that many of them. -/
theorem dropWhile_eq_drop (p : Char → Bool) (l : List Char) :
    l.dropWhile p = l.drop (l.length - (l.dropWhile p).length) := by
  obtain ⟨front, hfront⟩ := List.dropWhile_suffix p (l := l)
  have hlen : l.length - (l.dropWhile p).length = front.length := by
    have := congrArg List.length hfront
    rw [List.length_append] at this
    omega
  rw [hlen]
  calc l.dropWhile p = (front ++ l.dropWhile p).drop front.length := List.drop_left.symm
    _ = l.drop front.length := by rw [hfront]

theorem drop_length_takeWhile (p : Char → Bool) (l : List Char) :
    l.drop (l.takeWhile p).length = l.dropWhile p :=
  calc l.drop (l.takeWhile p).length
      = (l.takeWhile p ++ l.dropWhile p).drop (l.takeWhile p).length := by
        rw [List.takeWhile_append_dropWhile]
    _ = l.dropWhile p := List.drop_left

/-- The pieces of a line join back to it. -/
theorem join_helpPieces (styles : HelpStyles) (line : List Char) :
    String.join ((helpPieces styles line).map (·.1)) = String.ofList line := by
  unfold helpPieces
  dsimp only
  split
  · next husage =>
    -- a usage line is the word `usage:` and what follows it
    obtain ⟨rest, hrest⟩ := String.startsWith_string_iff.mp husage
    simp only [String.toList_ofList] at hrest
    subst hrest
    have hdrop : ("usage:".toList ++ rest).drop 6 = rest := List.drop_left' (by simp)
    simp only [List.map_cons, List.map_nil, String.join_cons, String.join_nil, String.append_empty,
      hdrop, String.ofList_append, String.ofList_toList]
  · split
    · simp
    · split
      · next hentry =>
        -- an entry is its indent of two spaces, then the first word and the rest
        have hstrip : line.dropWhile (· = ' ') = line.drop 2 := by
          rw [dropWhile_eq_drop, hentry.1]
        have hindent : line.length - (line.drop 2).length = 2 := by
          rw [← hstrip]
          exact hentry.1
        simp only [List.map_cons, List.map_nil, String.join_cons, String.join_nil,
          String.append_empty, ← String.ofList_append, hstrip, hindent, drop_length_takeWhile,
          List.takeWhile_append_dropWhile, List.take_append_drop]
      · simp

/-- Styling lines one after the other adds their texts, less the dropped control characters. -/
theorem plain_foldl_helpLine (styles : HelpStyles) (lines : List (List Char)) (t : Styled) :
    (lines.foldl (helpLine styles) t).plain = t.plain ++ sanitize (String.ofList lines.flatten) := by
  induction lines generalizing t with
  | nil => simp
  | cons line lines ih =>
    rw [List.foldl_cons, ih, helpLine_eq_pieces, Styled.plain_foldl_append, join_helpPieces,
      List.flatten_cons, String.ofList_append, sanitize_append, String.append_assoc]

theorem helpText_plain (text : String) (styles : HelpStyles) :
    (helpText text styles).plain = sanitize text := by
  rw [helpText, Styled.highlightPlaceholders_plain, plain_foldl_helpLine, flatten_linesWithBreaks,
    String.ofList_toList]
  exact String.empty_append

/-! ## Spans within the text -/

namespace Styled

/-- Every span of a styled text lies within its text. -/
def SpansWithin (t : Styled) : Prop :=
  ∀ sp ∈ t.spans, sp.start ≤ sp.stop ∧ sp.stop ≤ t.plain.length

theorem spansWithin_empty : ({} : Styled).SpansWithin := by simp [SpansWithin]

theorem SpansWithin.append {t : Styled} (ht : t.SpansWithin) (piece style : String) :
    (t.append piece style).SpansWithin := by
  intro sp hsp
  rw [append_plain, String.length_append]
  unfold Styled.append at hsp
  split at hsp
  · have := ht sp hsp
    omega
  · dsimp only at hsp
    split at hsp
    · have := ht sp hsp
      omega
    · rcases List.mem_append.mp hsp with hsp | hsp
      · have := ht sp hsp
        omega
      · -- the new span covers the appended piece
        rw [List.mem_singleton.mp hsp]
        exact ⟨Nat.le_add_right _ _, Nat.le_refl _⟩

/-- Every placeholder found from a position lies between it and the end of the text. -/
theorem placeholderRanges_go_within (isName : Char → Bool) (cs : List Char) (pos : Nat) :
    ∀ r ∈ placeholderRanges.go isName cs pos, pos ≤ r.1 ∧ r.1 ≤ r.2 ∧ r.2 ≤ pos + cs.length := by
  fun_induction placeholderRanges.go isName cs pos with
  | case1 => simp
  | case2 pos rest name after hfound ih =>
    -- the placeholder closes inside the text, and the search goes on after it
    have hclose : after ≠ [] := by
      intro hnil
      simp [hnil] at hfound
    have hname : name.length ≤ rest.length := (List.takeWhile_prefix isName).length_le
    have hafter : after.length = rest.length - name.length := List.length_drop
    have hpos : after.length ≠ 0 := fun h => hclose (List.length_eq_zero_iff.mp h)
    intro r hr
    rcases List.mem_cons.mp hr with rfl | hr
    · simp only [List.length_cons]
      omega
    · have := ih r hr
      simp only [List.length_cons, List.length_drop] at this ⊢
      omega
  | case3 pos rest _ _ _ ih | case4 pos _ rest _ ih =>
    intro r hr
    have := ih r hr
    simp only [List.length_cons]
    omega

theorem SpansWithin.highlightPlaceholders {t : Styled} (ht : t.SpansWithin) (style : String) :
    (t.highlightPlaceholders style).SpansWithin := by
  unfold Styled.highlightPlaceholders
  split
  · exact ht
  · intro sp hsp
    rcases List.mem_append.mp hsp with hsp | hsp
    · exact ht sp hsp
    · obtain ⟨r, hr, rfl⟩ := List.mem_map.mp hsp
      have := placeholderRanges_go_within _ _ 0 r hr
      rw [← String.length_toList]
      simp only [Nat.zero_add] at this
      exact ⟨this.2.1, this.2.2⟩

theorem SpansWithin.foldl_append {t : Styled} (ht : t.SpansWithin) (pieces : List (String × String)) :
    (pieces.foldl (fun t p => t.append p.1 p.2) t).SpansWithin := by
  induction pieces generalizing t with
  | nil => exact ht
  | cons p pieces ih => exact ih (ht.append p.1 p.2)

end Styled

/-- Every span of a styled help page lies within its text. -/
theorem spansWithin_helpText (text : String) (styles : HelpStyles) :
    (helpText text styles).SpansWithin := by
  unfold helpText
  refine Styled.SpansWithin.highlightPlaceholders ?_ _
  refine List.foldlRecOn (motive := Styled.SpansWithin) _ _ Styled.spansWithin_empty
    fun t ht line _ => ?_
  rw [helpLine_eq_pieces]
  exact ht.foldl_append _

/-! ## Lines of a text -/

def partsBetween (cs : List Char) (bounds : List Nat) : List (List Char) :=
  (bounds.zip bounds.tail).map fun (a, b) => (cs.drop a).take (b - a)

theorem partsBetween_shift (cs : List Char) (bounds : List Nat) (k : Nat) :
    partsBetween cs (bounds.map (· + k)) = partsBetween (cs.drop k) bounds := by
  unfold partsBetween
  rw [← List.map_tail, List.zip_map, List.map_map]
  refine List.map_congr_left fun ⟨a, b⟩ _ => ?_
  simp only [Function.comp_apply, Prod.map, List.drop_drop, Nat.add_comm, Nat.add_sub_add_left]

/-- No position of a character before its first occurrence. -/
theorem filter_zipIdx_eq_nil {c : Char} {cs : List Char} (h : c ∉ cs) (k : Nat) :
    (cs.zipIdx k).filter (fun (d, _) => decide (d = c)) = [] := by
  refine List.filter_eq_nil_iff.mpr fun ⟨d, i⟩ hd => ?_
  have : d ∈ cs := List.fst_mem_of_mem_zipIdx hd
  simp only [decide_eq_true_eq]
  rintro rfl
  exact h this

/-- The positions of a character, when its first occurrence ends a prefix. -/
theorem positionsOf_append_cons {c : Char} {pre : List Char} (hpre : c ∉ pre) (post : List Char) :
    Styled.positionsOf (pre ++ c :: post) c =
      pre.length :: (Styled.positionsOf post c).map (· + (pre.length + 1)) := by
  have hshift : post.zipIdx (pre.length + 1) =
      (post.zipIdx 0).map (Prod.map id (· + (pre.length + 1))) := by
    rw [List.map_snd_add_zipIdx_eq_zipIdx]
  simp only [Styled.positionsOf, List.zipIdx_append, List.zipIdx_cons, List.filter_append,
    filter_zipIdx_eq_nil hpre, List.filter_cons, decide_true, if_true, hshift, List.filter_map,
    List.map_map, List.nil_append, List.map_cons, Nat.zero_add]
  rfl

theorem positionsOf_eq_nil_iff {c : Char} {cs : List Char} :
    Styled.positionsOf cs c = [] ↔ c ∉ cs := by
  constructor
  · intro hnil hmem
    obtain ⟨pre, post, rfl, hpre⟩ := List.eq_append_cons_of_mem hmem
    rw [positionsOf_append_cons hpre] at hnil
    exact List.cons_ne_nil _ _ hnil
  · intro h
    simp only [Styled.positionsOf, filter_zipIdx_eq_nil h, List.map_nil]

def lineBounds (cs : List Char) : List Nat :=
  0 :: (Styled.positionsOf cs '\n').flatMap (fun p => [p, p + 1]) ++ [cs.length]

theorem lineBounds_append_cons {pre : List Char} (hpre : '\n' ∉ pre) (post : List Char) :
    lineBounds (pre ++ '\n' :: post) =
      0 :: pre.length :: (lineBounds post).map (· + (pre.length + 1)) := by
  simp only [lineBounds, positionsOf_append_cons hpre, List.flatMap_cons, List.flatMap_map,
    List.map_cons, List.map_append, List.map_flatMap, List.length_append, List.length_cons,
    List.cons_append, List.nil_append, List.map_nil, Nat.zero_add]
  simp only [Nat.add_comm, Nat.add_left_comm]

theorem beq_feed_of_not_mem {cs : List Char} (h : '\n' ∉ cs) : ∀ x ∈ cs, (x == '\n') = false := by
  intro x hx
  simp only [beq_eq_false_iff_ne, ne_eq]
  rintro rfl
  exact h hx

theorem bne_feed_of_not_mem {cs : List Char} (h : '\n' ∉ cs) : (cs != ['\n']) = true := by
  simp only [bne_iff_ne, ne_eq]
  rintro rfl
  exact h (List.mem_singleton_self _)

theorem partsBetween_cons_cons (cs : List Char) (a b : Nat) (bounds : List Nat) :
    partsBetween cs (a :: b :: bounds) = (cs.drop a).take (b - a) :: partsBetween cs (b :: bounds) :=
  rfl

/-- Cut at its line feeds, a text falls into its lines and the line feeds themselves; leaving
out the line feeds gives the text split at them. -/
theorem partsBetween_lineBounds (cs : List Char) :
    (partsBetween cs (lineBounds cs)).filter (· != ['\n']) = cs.splitOn '\n' := by
  by_cases hfeed : '\n' ∈ cs
  · obtain ⟨pre, post, rfl, hpre⟩ := List.eq_append_cons_of_mem hfeed
    have ih := partsBetween_lineBounds post
    -- the bounds after the first line feed are those of the rest, moved past it
    have htail : (lineBounds post).map (· + (pre.length + 1)) =
        (pre.length + 1) :: (lineBounds post).tail.map (· + (pre.length + 1)) := by
      simp [lineBounds]
    have hfirst : ((pre ++ '\n' :: post).drop 0).take (pre.length - 0) = pre := by
      simp
    have hsep : ((pre ++ '\n' :: post).drop pre.length).take (pre.length + 1 - pre.length) =
        ['\n'] := by
      simp
    have hrest : (pre ++ '\n' :: post).drop (pre.length + 1) = post := by
      simp
    rw [lineBounds_append_cons hpre, partsBetween_cons_cons, htail, partsBetween_cons_cons, ← htail,
      partsBetween_shift, hfirst, hsep, hrest]
    simp only [List.filter_cons, bne_feed_of_not_mem hpre, bne_self_eq_false, if_true, Bool.false_eq_true, if_false, ih]
    rw [List.splitOn_eq_splitOnP, List.splitOn_eq_splitOnP,
      List.splitOnP_append_cons_of_forall_mem (beq_feed_of_not_mem hpre) _ (by simp)]
  · -- a text without a line feed is one line
    have hone : partsBetween cs (lineBounds cs) = [cs] := by
      simp [lineBounds, positionsOf_eq_nil_iff.mpr hfeed, partsBetween]
    rw [hone, List.splitOn_eq_splitOnP, List.splitOnP_eq_singleton (beq_feed_of_not_mem hfeed)]
    simp only [List.filter_cons, bne_feed_of_not_mem hfeed, if_true, List.filter_nil]
termination_by cs.length
decreasing_by subst_vars; rw [List.length_append, List.length_cons]; omega

namespace Styled

theorem divide_plain (t : Styled) (cuts : List Nat) :
    (t.divide cuts).map (·.plain.toList) =
      partsBetween t.plain.toList (0 :: cuts ++ [t.plain.toList.length]) := by
  simp only [divide, partsBetween, List.map_map, String.length_toList]
  refine List.map_congr_left fun ⟨a, b⟩ _ => ?_
  simp [slice]

/-- The lines of a styled text are its text split at line feeds. -/
theorem lines_plain (t : Styled) : t.lines.map (·.plain.toList) = t.plain.toList.splitOn '\n' := by
  unfold lines
  dsimp only
  split
  · next hnone =>
    have hfeed : '\n' ∉ t.plain.toList :=
      positionsOf_eq_nil_iff.mp (List.isEmpty_iff.mp hnone)
    rw [List.map_singleton, List.splitOn_eq_splitOnP,
      List.splitOnP_eq_singleton (beq_feed_of_not_mem hfeed)]
  · -- cut at every line feed and on both sides of it, leaving the line feeds out
    have hparts : (t.divide ((positionsOf t.plain.toList '\n').flatMap fun p => [p, p + 1])).map
        (·.plain.toList) = partsBetween t.plain.toList (lineBounds t.plain.toList) :=
      divide_plain t _
    have hkeep : ∀ s : Styled, (s.plain != "\n") = (s.plain.toList != ['\n']) := by
      intro s
      simp [bne, String.ext_iff]
    rw [← partsBetween_lineBounds, ← hparts, List.filter_map]
    exact congrArg _ (List.filter_congr fun s _ => hkeep s)

end Styled

/-! ## Joining lines again -/

namespace Styled

theorem concat_plain (ts : List Styled) : (concat ts).plain = String.join (ts.map (·.plain)) := by
  have hfold : ts.foldl (fun s t => s ++ t.plain) ({} : Styled).plain = (concat ts).plain :=
    List.foldl_hom Styled.plain fun _ _ => rfl
  rw [← hfold, String.join, List.foldl_map]

end Styled

/-- Joining texts with a separator between them is joining their characters with it. -/
theorem toList_join_map_intersperse {α : Type} (f : α → String) (sep : α) :
    ∀ ls : List α, (String.join ((ls.intersperse sep).map f)).toList =
      (f sep).toList.intercalate (ls.map fun a => (f a).toList)
  | [] => rfl
  | [a] => by simp
  | a :: b :: ls => by
    rw [List.intersperse_cons_cons, List.map_cons, List.map_cons, String.join_cons,
      String.join_cons, String.toList_append, String.toList_append,
      toList_join_map_intersperse f sep (b :: ls)]
    simp only [List.map_cons, List.intercalate_cons_cons, List.append_assoc]

/-! ## Laying a text out -/

/-- A text that a console lays out as it is: no tab, and no line longer than the console that
ends in whitespace. -/
def Console.LaysOutAsIs (c : Console) (s : String) : Prop :=
  ∀ line ∈ s.toList.splitOn '\n',
    '\t' ∉ line ∧ (line.length ≤ c.width ∨ ∀ ch ∈ line.getLast?, Text.isBlank ch = false)

namespace Styled

theorem expandTabs_of_not_mem {t : Styled} (h : '\t' ∉ t.plain.toList) (tabSize : Nat) :
    t.expandTabs tabSize = t := by
  unfold expandTabs
  rw [if_pos (by simpa [List.contains_iff_mem] using h)]

theorem cropTrailingBlank_of_not_blank {t : Styled} {width : Nat}
    (h : t.plain.toList.length ≤ width ∨ ∀ ch ∈ t.plain.toList.getLast?, Text.isBlank ch = false) :
    t.cropTrailingBlank width = t := by
  unfold cropTrailingBlank
  dsimp only
  split
  · rfl
  · next hlong =>
    -- a line too long for the console ends in a character that is not blank
    have hlast : ∀ ch ∈ t.plain.toList.getLast?, Text.isBlank ch = false := by
      rw [← String.length_toList] at hlong
      exact h.resolve_left hlong
    have hnone : (t.plain.toList.reverse.takeWhile Text.isBlank).length = 0 := by
      rw [← List.head?_reverse] at hlast
      cases hrev : t.plain.toList.reverse with
      | nil => rfl
      | cons ch rest =>
        rw [hrev] at hlast
        simp [hlast ch rfl]
    rw [if_pos hnone]

end Styled

@[simp] theorem ofString_newline_plain : (Styled.ofString "\n").plain = "\n" := rfl

/-- A console lays out a text that needs no change as the text itself, cut into its lines and
joined again. -/
theorem Console.layout_plain (c : Console) {t : Styled} (h : c.LaysOutAsIs t.plain) :
    (c.layout t).plain = t.plain := by
  have hlines : t.lines.map (fun l => l.expandTabs.cropTrailingBlank c.width) = t.lines := by
    refine (List.map_congr_left fun l hl => ?_).trans (List.map_id' _)
    have hline : l.plain.toList ∈ t.plain.toList.splitOn '\n' := by
      rw [← Styled.lines_plain]
      exact List.mem_map_of_mem hl
    obtain ⟨htab, hfit⟩ := h _ hline
    rw [Styled.expandTabs_of_not_mem htab, Styled.cropTrailingBlank_of_not_blank hfit]
  unfold layout
  rw [hlines, String.ext_iff, Styled.concat_plain, toList_join_map_intersperse,
    ofString_newline_plain, Styled.lines_plain]
  exact List.intercalate_splitOn '\n'

/-! ## Cutting a text at its span bounds -/

/-- Erasing repeats keeps the first occurrences, in order. -/
theorem eraseDups_sublist {α : Type} [BEq α] : ∀ l : List α, l.eraseDups.Sublist l
  | [] => List.Sublist.slnil
  | a :: as => by
    rw [List.eraseDups_cons]
    exact ((eraseDups_sublist _).trans List.filter_sublist).cons_cons a
termination_by l => l.length
decreasing_by
  have := List.length_filter_le (fun b => !b == a) as
  simp only [List.length_cons]
  omega

/-- The parts between increasing bounds read the text from the first bound to the last. -/
theorem flatten_partsBetween (cs : List Char) {e : Nat} :
    ∀ (a : Nat) (rest : List Nat), (a :: rest).Pairwise (· ≤ ·) → (∀ x ∈ a :: rest, x ≤ e) →
      e ∈ a :: rest → (partsBetween cs (a :: rest)).flatten = (cs.drop a).take (e - a)
  | a, [], _, _, he => by
    rw [List.mem_singleton.mp he, Nat.sub_self, List.take_zero]
    rfl
  | a, b :: rest, hsorted, hle, he => by
    have hab : a ≤ b := List.rel_of_pairwise_cons hsorted List.mem_cons_self
    have hbe : b ≤ e := hle b (List.mem_cons_of_mem a List.mem_cons_self)
    -- the last bound is also among the bounds from the second on
    have he' : e ∈ b :: rest := by
      rcases List.mem_cons.mp he with rfl | he
      · rw [Nat.le_antisymm hbe hab]
        exact List.mem_cons_self
      · exact he
    rw [partsBetween_cons_cons, List.flatten_cons, flatten_partsBetween cs b rest hsorted.of_cons
      (fun x hx => hle x (List.mem_cons_of_mem a hx)) he']
    have hsplit : e - a = (b - a) + (e - b) := by omega
    rw [hsplit, List.take_add, List.drop_drop, Nat.add_sub_cancel' hab]

namespace Styled

/-- The bounds a text is cut at to be printed: both ends and every span bound within the
text, in increasing order and each once. -/
def pieceBounds (t : Styled) : List Nat :=
  (((0 :: t.plain.toList.length :: t.spans.flatMap fun s => [s.start, s.stop]).filter
    (· ≤ t.plain.toList.length)).mergeSort (· ≤ ·)).eraseDups

theorem pieces_fst (t : Styled) :
    t.pieces.map (·.1) = (partsBetween t.plain.toList t.pieceBounds).map String.ofList := by
  simp only [pieces, pieceBounds, partsBetween, List.map_map]
  rfl

theorem mem_pieceBounds {t : Styled} {x : Nat} :
    x ∈ t.pieceBounds ↔ x ∈ (0 :: t.plain.toList.length :: t.spans.flatMap fun s => [s.start, s.stop])
      ∧ x ≤ t.plain.toList.length := by
  simp only [pieceBounds, List.mem_eraseDups, List.mem_mergeSort, List.mem_filter, decide_eq_true_eq]

theorem pieceBounds_sorted (t : Styled) : t.pieceBounds.Pairwise (· ≤ ·) := by
  have hsorted := List.pairwise_mergeSort (fun a b c (hab : decide (a ≤ b) = true)
    (hbc : decide (b ≤ c) = true) => decide_eq_true (Nat.le_trans (of_decide_eq_true hab)
      (of_decide_eq_true hbc)))
    (fun a b => by simpa using Nat.le_total a b)
    ((0 :: t.plain.toList.length :: t.spans.flatMap fun s => [s.start, s.stop]).filter
      (· ≤ t.plain.toList.length))
  exact (hsorted.sublist (eraseDups_sublist _)).imp of_decide_eq_true

/-- The pieces of a text read the text. -/
theorem join_pieces (t : Styled) : String.join (t.pieces.map (·.1)) = t.plain := by
  have h0 : 0 ∈ t.pieceBounds := mem_pieceBounds.mpr ⟨List.mem_cons_self, Nat.zero_le _⟩
  have hlen : t.plain.toList.length ∈ t.pieceBounds :=
    mem_pieceBounds.mpr ⟨List.mem_cons_of_mem _ List.mem_cons_self, Nat.le_refl _⟩
  have hle : ∀ x ∈ t.pieceBounds, x ≤ t.plain.toList.length := fun x hx => (mem_pieceBounds.mp hx).2
  have hsorted := pieceBounds_sorted t
  obtain ⟨a, rest, hsplit⟩ := List.exists_cons_of_ne_nil (List.ne_nil_of_mem h0)
  rw [hsplit] at h0 hlen hle hsorted
  -- the first bound is the start of the text
  have ha : a = 0 := by
    rcases List.mem_cons.mp h0 with h | h
    · exact h.symm
    · exact Nat.le_zero.mp (List.rel_of_pairwise_cons hsorted h)
  rw [pieces_fst, Help.join_map_ofList, hsplit, flatten_partsBetween _ a rest hsorted hle hlen, ha,
    List.drop_zero, Nat.sub_zero, List.take_length, String.ofList_toList]

end Styled

/-- An uncolored console writes the laid-out text as it is. -/
theorem Console.render_uncolored {c : Console} (hw : c.width ≠ 0) (hc : c.colored = false)
    (t : Styled) (finish : String) : c.render t finish = (c.layout t).plain ++ finish := by
  unfold render
  rw [if_neg hw, ← Styled.join_pieces (c.layout t)]
  congr 2
  refine List.map_congr_left fun ⟨text, styles⟩ _ => ?_
  simp [piece, hc]

/-! ## Writing in colors -/

/-- A text opened by the SGR sequence with the given parameters and closed by a reset; with no
parameters, the text alone. -/
def sgrWrap (params text : String) : String :=
  if params.isEmpty then text else "\x1b[" ++ params ++ "m" ++ text ++ "\x1b[0m"

/-- Parameters of an SGR sequence: digits and semicolons. -/
def SgrParams (params : String) : Prop := ∀ ch ∈ params.toList, ch.isDigit ∨ ch = ';'

/-- A text written in colors: the text cut into pieces, in order, each written bare or opened
by an SGR sequence and closed by a reset. Removing the sequences gives the text back. -/
def WrittenInColors (out text : String) : Prop :=
  ∃ parts : List (String × String), String.join (parts.map (·.1)) = text ∧
    (∀ p ∈ parts, SgrParams p.2) ∧ out = String.join (parts.map fun p => sgrWrap p.2 p.1)

theorem mem_intercalate {α : Type} {x : α} {sep : List α} {ls : List (List α)}
    (h : x ∈ sep.intercalate ls) : x ∈ sep ∨ ∃ l ∈ ls, x ∈ l := by
  obtain ⟨l, hl, hx⟩ := List.mem_flatten.mp h
  rcases mem_of_mem_intersperse hl with rfl | hl
  · exact .inl hx
  · exact .inr ⟨l, hl, hx⟩

theorem isDigit_of_mem_toString {n : Nat} {ch : Char} (h : ch ∈ (toString n).toList) :
    ch.isDigit := by
  have hdigits : (toString n).toList = Nat.toDigits 10 n := by simp [Nat.repr]
  rw [hdigits] at h
  exact Nat.isDigit_of_mem_toDigits (by decide) (by decide) h

theorem attributeCodes_digits : ∀ code ∈ attributeCodes, ∀ ch ∈ code.toList, ch.isDigit := by
  simp [attributeCodes]

theorem Color.codes_digits (foreground : Bool) (c : Color) :
    ∀ code ∈ c.codes foreground, ∀ ch ∈ code.toList, ch.isDigit := by
  intro code hcode ch hch
  cases c with
  | default =>
    cases foreground <;> simp only [Color.codes, List.mem_singleton] at hcode <;> subst hcode <;>
      revert ch <;> simp
  | standard n =>
    rw [Color.codes, List.mem_singleton] at hcode
    subst hcode
    exact isDigit_of_mem_toString hch
  | palette n =>
    simp only [Color.codes, List.mem_cons, List.not_mem_nil, or_false] at hcode
    rcases hcode with rfl | rfl | rfl
    · cases foreground <;> revert ch <;> simp
    · revert ch; simp
    · exact isDigit_of_mem_toString hch
  | rgb r g b =>
    simp only [Color.codes, List.mem_cons, List.not_mem_nil, or_false] at hcode
    rcases hcode with rfl | rfl | rfl | rfl | rfl
    · cases foreground <;> revert ch <;> simp
    · revert ch; simp
    all_goals exact isDigit_of_mem_toString hch

theorem Color.reducedCodes_digits (foreground : Bool) (o : Option Color) :
    ∀ code ∈ (o.map fun c => c.reduce.codes foreground).getD [], ∀ ch ∈ code.toList, ch.isDigit := by
  cases o with
  | none => simp
  | some c => exact Color.codes_digits foreground c.reduce

/-- The escape sequence of a style is an SGR sequence. -/
theorem Style.sequence_params (s : Style) : SgrParams s.sequence := by
  intro ch hch
  unfold Style.sequence at hch
  rw [String.toList_intercalate] at hch
  rcases mem_intercalate hch with h | ⟨w, hw, h⟩
  · exact .inr (by simpa using h)
  · left
    obtain ⟨code, hcode, rfl⟩ := List.mem_map.mp hw
    -- a code of an attribute, of the foreground or of the background
    rcases List.mem_append.mp hcode with hcode | hbg
    · rcases List.mem_append.mp hcode with hattr | hfg
      · obtain ⟨p, hp, rfl⟩ := List.mem_map.mp hattr
        exact attributeCodes_digits _ (List.fst_mem_of_mem_zipIdx (List.mem_filter.mp hp).1) _ h
      · exact Color.reducedCodes_digits true s.color code hfg ch h
    · exact Color.reducedCodes_digits false s.background code hbg ch h

theorem Console.piece_colored {c : Console} (hc : c.colored = true) (text : String)
    (styles : List String) :
    c.piece text styles = sgrWrap (if text.isEmpty then "" else stackSequence styles) text := by
  unfold piece sgrWrap
  by_cases h : text.isEmpty <;> simp [hc, h]

/-- A colored console writes the laid-out text in colors. -/
theorem Console.render_colored {c : Console} (hw : c.width ≠ 0) (hc : c.colored = true)
    (t : Styled) (finish : String) :
    WrittenInColors (c.render t finish) ((c.layout t).plain ++ finish) := by
  refine ⟨(c.layout t).pieces.map (fun p => (p.1, if p.1.isEmpty then "" else stackSequence p.2))
    ++ [(finish, "")], ?_, ?_, ?_⟩
  · rw [List.map_append, String.join_append, List.map_map, ← Styled.join_pieces (c.layout t)]
    simp [Function.comp_def]
  · intro p hp
    rcases List.mem_append.mp hp with hp | hp
    · obtain ⟨q, -, rfl⟩ := List.mem_map.mp hp
      dsimp only
      split
      · simp [SgrParams]
      · exact Style.sequence_params _
    · rw [List.mem_singleton.mp hp]
      simp [SgrParams]
  · unfold render
    rw [if_neg hw, List.map_append, String.join_append, List.map_map]
    simp [Function.comp_def, piece_colored hc, sgrWrap]

theorem Styled.pieces_unstyled {t : Styled} (ht : t.spans = []) : ∀ p ∈ t.pieces, p.2 = [] := by
  intro p hp
  obtain ⟨⟨a, b⟩, -, rfl⟩ := List.mem_map.mp hp
  simp [ht]

@[simp] theorem stackSequence_nil : stackSequence [] = "" := by decide

/-- A laid-out text without spans is written as it is, on any console. -/
theorem Console.render_unstyled {c : Console} (hw : c.width ≠ 0) {t : Styled}
    (ht : (c.layout t).spans = []) (finish : String) :
    c.render t finish = (c.layout t).plain ++ finish := by
  unfold render
  rw [if_neg hw, ← Styled.join_pieces (c.layout t)]
  congr 2
  refine List.map_congr_left fun ⟨text, styles⟩ hp => ?_
  have hnone : styles = [] := Styled.pieces_unstyled ht _ hp
  subst hnone
  simp [piece]

theorem Console.layout_ofString_spans (c : Console) (s : String) :
    (c.layout (Styled.ofString s)).spans = [] :=
  List.eq_nil_iff_forall_not_mem.mpr fun sp hsp =>
    c.layout_stylesIn (P := fun _ => False) (Styled.stylesIn_ofString s) sp hsp

end Terminal

open Terminal

/-! ## What the interface writes -/

namespace Ui

variable (u : Ui) {text : String}

/-- The console writes colors when the choice is `always`, or on a terminal unless the choice
is `never`. -/
theorem console_colored_iff :
    u.console.colored = true ↔ u.color = "always" ∨ u.terminal = true ∧ u.color ≠ "never" := by
  simp [console, Console.ofChoice]

theorem console_uncolored_iff :
    u.console.colored = false ↔ u.color = "never" ∨ u.color ≠ "always" ∧ u.terminal = false := by
  rw [← Bool.not_eq_true, u.console_colored_iff]
  -- "never" is not "always", so under "never" the color test fails whatever the terminal
  by_cases hn : u.color = "never"
  · simp [hn]
  · cases u.terminal <;> simp [hn]

/-- A help page that its console shows as it is, in help styles that resolve, is written as
it is, and in colors on a console that writes colors. -/
theorem printHelp_writes {styles : Styles} (hstyles : (helpStyles styles).Each Style.Resolves)
    (hwidth : 0 < u.columns) (hkept : Unstripped text) (hlays : u.console.LaysOutAsIs text)
    (o : Output) :
    ∃ out, (u.printHelp text styles).run.run o =
        (.ok (), { o with writes := o.writes.push (.out, out) }) ∧
      (u.console.colored = false → out = text) ∧
      (u.console.colored = true → WrittenInColors out text) := by
  have hplain : (helpText text (helpStyles styles)).plain = text :=
    (helpText_plain text _).trans (sanitize_eq_self hkept)
  have hlaid : (u.console.layout (helpText text (helpStyles styles))).plain = text := by
    rw [u.console.layout_plain (by rw [hplain]; exact hlays), hplain]
  have hw : u.console.width ≠ 0 := Nat.pos_iff_ne_zero.mp hwidth
  refine ⟨_, u.printHelp_run text hstyles o, fun hc => ?_, fun hc => ?_⟩
  · rw [Console.render_uncolored hw hc, hlaid, String.append_empty]
  · have := Console.render_colored hw hc (helpText text (helpStyles styles)) ""
    rwa [hlaid, String.append_empty] at this

/-- A line of output that its console shows as it is is written as it is, with a line feed,
whatever the color. -/
theorem write_writes (hwidth : 0 < u.columns) (hkept : Unstripped text)
    (hlays : u.console.LaysOutAsIs text) (o : Output) :
    (u.write text).run.run o = (.ok (), { o with writes := o.writes.push (.out, text ++ "\n") }) := by
  have hplain : (Styled.ofString text).plain = text :=
    (Styled.append_plain {} text "").trans (by rw [sanitize_eq_self hkept]; rfl)
  have hlaid : (u.console.layout (Styled.ofString text)).plain = text := by
    rw [u.console.layout_plain (by rw [hplain]; exact hlays), hplain]
  unfold write
  rw [emit_run, Console.line, Console.render_unstyled (Nat.pos_iff_ne_zero.mp hwidth)
    (u.console.layout_ofString_spans text), hlaid]

end Ui

/-! ## Printing keeps the text -/

/-- What styling a help page and printing it keep of its text. -/
structure KeepsText (text : String) (styles : Styles) : Prop where
  /-- Styling keeps the text, less the control characters appending drops. -/
  plain : (helpText text (Ui.helpStyles styles)).plain = sanitize text
  /-- Each line is styled by appending its pieces, and the pieces read the line. -/
  cut : ∀ (t : Styled) (line : List Char),
    helpLine (Ui.helpStyles styles) t line =
        (helpPieces (Ui.helpStyles styles) line).foldl (fun t p => t.append p.1 p.2) t ∧
      String.join ((helpPieces (Ui.helpStyles styles) line).map (·.1)) = String.ofList line
  /-- Every span lies within the text. -/
  spans : (helpText text (Ui.helpStyles styles)).SpansWithin
  /-- On a console that shows the text as it is, the printed page is the text: as it is under
  `never`, or under another choice than `always` off a terminal; in colors under `always`, or
  under another choice than `never` on a terminal. -/
  printHelp : ∀ u : Ui, 0 < u.columns → (Ui.helpStyles styles).Each Style.Resolves →
    Unstripped text → u.console.LaysOutAsIs text → ∀ o : Output,
      ∃ out, (u.printHelp text styles).run.run o =
          (.ok (), { o with writes := o.writes.push (.out, out) }) ∧
        (u.color = "never" ∨ u.color ≠ "always" ∧ u.terminal = false → out = text) ∧
        (u.color = "always" ∨ u.terminal = true ∧ u.color ≠ "never" → WrittenInColors out text)
  /-- On such a console, a line of output is the text and a line feed. -/
  write : ∀ u : Ui, 0 < u.columns → Unstripped text → u.console.LaysOutAsIs text →
    ∀ o : Output,
      (u.write text).run.run o = (.ok (), { o with writes := o.writes.push (.out, text ++ "\n") })

theorem printing_keeps_text (text : String) (styles : Styles) : KeepsText text styles where
  plain := helpText_plain text _
  cut t line := ⟨helpLine_eq_pieces _ t line, join_helpPieces _ line⟩
  spans := spansWithin_helpText text _
  printHelp u hwidth hstyles hkept hlays o := by
    obtain ⟨out, hrun, hplain, hcolored⟩ := u.printHelp_writes hstyles hwidth hkept hlays o
    exact ⟨out, hrun, fun hoff => hplain (u.console_uncolored_iff.mpr hoff),
      fun hon => hcolored (u.console_colored_iff.mpr hon)⟩
  write u hwidth hkept hlays o := u.write_writes hwidth hkept hlays o

/-- A bell in a help page does not reach the styled page. -/
theorem styling_drops_bell : (helpText "a\x07b" (Ui.helpStyles {})).plain ≠ "a\x07b" := by
  rw [helpText_plain]
  decide +kernel

end CommandLine
