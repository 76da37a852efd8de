import CommandLine.Catalog.Descriptor

/-!
# The command name grammar

A command name is made of words of lowercase ASCII letters and digits, joined by single
hyphens, the first word starting with a letter: the language `[a-z][a-z0-9]*(-[a-z0-9]+)*`.
`CommandName` states it on the characters of a text, as the words the text is made of.

The check of a descriptor splits a name at its hyphens and tests the pieces
(`wordsJoined_iff`: that decides the grammar), but it also passes a name followed by one line
feed: the pattern is anchored at its end by a test that matches just before a final line
feed too. So a descriptor reports an invalid name for each of its names that is neither a
text of the grammar nor one followed by a single line feed (`invalid_names_reported`), and a
name such as `log` with a line feed after it passes although it is not a command name
(`trailing_line_feed_passes`).

`validName_iff` gives the texts the check passes.
-/

namespace CommandLine

/-! ## The grammar -/

/-- A character of a word of a command name: a lowercase ASCII letter or an ASCII digit. -/
def IsWordChar (c : Char) : Prop := ('a' ≤ c ∧ c ≤ 'z') ∨ ('0' ≤ c ∧ c ≤ '9')

instance : DecidablePred IsWordChar := fun c =>
  inferInstanceAs (Decidable (('a' ≤ c ∧ c ≤ 'z') ∨ ('0' ≤ c ∧ c ≤ '9')))

/-- A word of a command name: one or more word characters. -/
def IsWord (w : List Char) : Prop := w ≠ [] ∧ ∀ c ∈ w, IsWordChar c

/-- A text of the command name grammar `[a-z][a-z0-9]*(-[a-z0-9]+)*`: words of lowercase ASCII
letters and digits joined by single hyphens, starting with a letter, with nothing before or
after. -/
structure CommandName (cs : List Char) : Prop where
  words : ∃ ws : List (List Char), ws ≠ [] ∧ (∀ w ∈ ws, IsWord w) ∧ cs = ['-'].intercalate ws
  first : ∃ c rest, cs = c :: rest ∧ 'a' ≤ c ∧ c ≤ 'z'

theorem hyphen_not_mem_of_isWord {w : List Char} (hw : IsWord w) : '-' ∉ w := fun h =>
  absurd (hw.2 '-' h) (by decide)

/-- A character of words joined by hyphens is a hyphen or a character of one of the words. -/
theorem mem_intercalate_hyphen {c : Char} :
    ∀ {ws : List (List Char)}, c ∈ ['-'].intercalate ws → c = '-' ∨ ∃ w ∈ ws, c ∈ w
  | [], h => by simp at h
  | [w], h => .inr ⟨w, by simp, by simpa [List.intercalate_singleton] using h⟩
  | w :: w' :: ws, h => by
    rw [List.intercalate_cons_cons] at h
    rcases List.mem_append.mp h with h | h
    · rcases List.mem_append.mp h with h | h
      · exact .inr ⟨w, by simp, h⟩
      · exact .inl (List.mem_singleton.mp h)
    · rcases mem_intercalate_hyphen h with h | ⟨v, hv, hc⟩
      · exact .inl h
      · exact .inr ⟨v, List.mem_cons_of_mem _ hv, hc⟩

theorem CommandName.mem {cs : List Char} (h : CommandName cs) {c : Char} (hc : c ∈ cs) :
    IsWordChar c ∨ c = '-' := by
  obtain ⟨ws, -, hgood, rfl⟩ := h.words
  rcases mem_intercalate_hyphen hc with rfl | ⟨w, hw, hcw⟩
  · exact .inr rfl
  · exact .inl ((hgood w hw).2 c hcw)

/-! ## The check -/

/-- The hyphen-split test decides the grammar: the pieces between hyphens are the words. -/
theorem wordsJoined_iff (cs : List Char) : wordsJoined cs = true ↔ CommandName cs := by
  constructor
  · intro h
    cases cs with
    | nil => simp [wordsJoined] at h
    | cons c rest =>
      simp only [wordsJoined, Bool.and_eq_true, decide_eq_true_eq, List.all_eq_true,
        Bool.not_eq_true', List.isEmpty_eq_false_iff] at h
      obtain ⟨hlow, hwords⟩ := h
      refine ⟨⟨_, List.splitOn_ne_nil _ _, fun w hw => ?_, (List.intercalate_splitOn '-').symm⟩,
        ⟨c, rest, rfl, hlow⟩⟩
      obtain ⟨hne, hchars⟩ := hwords w hw
      exact ⟨hne, fun x hx => by simpa [IsWordChar] using hchars x hx⟩
  · rintro ⟨⟨ws, hne, hgood, hcs⟩, ⟨c, rest, hfirst, hlow⟩⟩
    -- words without hyphens split back into themselves
    have hsplit : cs.splitOn '-' = ws := by
      rw [hcs]
      exact List.splitOn_intercalate '-' (fun w hw => hyphen_not_mem_of_isWord (hgood w hw)) hne
    rw [hfirst] at hsplit ⊢
    simp only [wordsJoined, hsplit, Bool.and_eq_true, decide_eq_true_eq, List.all_eq_true,
      Bool.not_eq_true', List.isEmpty_eq_false_iff]
    refine ⟨hlow, fun w hw => ⟨(hgood w hw).1, fun x hx => ?_⟩⟩
    simpa [IsWordChar] using (hgood w hw).2 x hx

/-- The texts the name check passes: the command names, and the command names followed by one
line feed. -/
def PassesNameCheck (s : String) : Prop :=
  CommandName s.toList ∨ ∃ t, CommandName t ∧ s.toList = t ++ ['\n']

theorem validName_iff (s : String) : validName s = true ↔ PassesNameCheck s := by
  simp only [validName, Bool.or_eq_true, Bool.and_eq_true, decide_eq_true_eq, wordsJoined_iff,
    PassesNameCheck]
  refine or_congr Iff.rfl ⟨fun ⟨hlast, hname⟩ => ?_, fun ⟨t, hname, ht⟩ => ?_⟩
  · obtain ⟨t, ht⟩ := List.getLast?_eq_some_iff.mp hlast
    rw [ht, List.dropLast_concat] at hname
    exact ⟨t, hname, ht⟩
  · rw [ht, List.getLast?_concat, List.dropLast_concat]
    exact ⟨rfl, hname⟩

/-- A name the check accepts: a text that passes the name check. -/
def AcceptedName (n : Value) : Prop := ∃ s, n = .str s ∧ PassesNameCheck s

instance : DecidablePred AcceptedName := fun n =>
  decidable_of_iff ((n.asString?.map validName).getD false = true) (by
    cases n <;> simp [AcceptedName, Value.asString?, validName_iff])

/-- A command name followed by one line feed passes the check, although it is no command name:
the line feed is no word character. -/
theorem trailing_line_feed_passes {t : List Char} (h : CommandName t) :
    AcceptedName (.str (String.ofList (t ++ ['\n']))) ∧ ¬ CommandName (t ++ ['\n']) := by
  refine ⟨⟨_, rfl, .inr ⟨t, h, String.toList_ofList⟩⟩, fun h' => ?_⟩
  rcases h'.mem (List.mem_append_right t (List.mem_singleton_self '\n')) with hw | hw
  · exact absurd hw (by decide)
  · exact absurd hw (by decide)

/-! ## The problems of a descriptor -/

namespace Descriptor

theorem nameProblems_eq (d : Descriptor) :
    d.nameProblems = (d.allNames.filter fun n => !decide (AcceptedName n)).map d.invalidName := by
  unfold nameProblems
  induction d.allNames with
  | nil => rfl
  | cons n ns ih =>
    rw [List.filterMap_cons, ih]
    cases n with
    | str s =>
      by_cases hs : validName s = true
      · have hacc : AcceptedName (.str s) := ⟨s, rfl, (validName_iff s).mp hs⟩
        simp [hs, hacc]
      · have hacc : ¬ AcceptedName (.str s) := fun ⟨_, h, hp⟩ =>
          hs ((validName_iff s).mpr (Value.str.inj h ▸ hp))
        simp [hs, hacc]
    | _ => simp [AcceptedName]

end Descriptor

/-- A descriptor's problems, name by name: one invalid name for each of its names that the
check does not accept, in order (a name that is not text, or a text that is neither a command
name nor one followed by a single line feed), then the problems of its other fields. -/
theorem invalid_names_reported (d : Descriptor) :
    d.problems =
      (d.allNames.filter fun n => !decide (AcceptedName n)).map d.invalidName ++ d.fieldProblems := by
  rw [Descriptor.problems, Descriptor.nameProblems_eq]

end CommandLine
