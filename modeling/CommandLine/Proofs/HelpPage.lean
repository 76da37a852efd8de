import CommandLine.Proofs.Listing
import CommandLine.Proofs.UnknownCommand

/-!
# The listing on the help page

The top-level help page shows each section of the listing as its heading line, `Heading:`,
followed by one line per row, the row indented by two spaces, and a blank line. Rows are laid
out as text, never wrapped, so this holds at every width.

A row is the command's name padded to the longest name of its section, two spaces and the
summary, without trailing blanks. The summary is the help; when the command has listed
aliases, it is the help followed by ` [aliases: a, b]`, without surrounding blanks, so an empty
help leaves two spaces between name and aliases, not three.

The section texts go through the same steps as every text of the page: the program is named
where a text asks for `%(prog)`, the text is cut into lines at its line breaks, and runs of
blank lines are collapsed. So the rows come out unchanged when they ask for no program name,
hold no line break and are not empty, and the program's name asks for no program name either.

`Schema.listingRows_eq` gives the rows of a section from names, helps and aliases, and
`help_page_shows_listing_rows` shows that the page holds every section of the listing, in
order.
-/

namespace CommandLine

/-! ## Texts that ask for a field -/

namespace Template

/-- A text is not held where its first character never appears. -/
theorem holds_eq_false_of_not_mem {c : Char} {rest cs : List Char} (hc : c ∉ cs) :
    holds (c :: rest) cs = false := by
  induction cs with
  | nil => rfl
  | cons d cs ih =>
    have hcd : c ≠ d := fun h => hc (h ▸ List.mem_cons_self)
    rw [holds.eq_2, ih fun h => hc (List.mem_cons_of_mem d h)]
    simp [List.isPrefixOf, hcd]

/-- A text without a character is a prefix of a text broken at that character only when it
is a prefix of the part before the break. -/
theorem isPrefixOf_append_cons {c : Char} : ∀ {part : List Char} (zs ys : List Char), c ∉ part →
    part.isPrefixOf (zs ++ c :: ys) = part.isPrefixOf zs
  | [], _, _, _ => rfl
  | p :: ps, [], ys, hc => by
    have hpc : p ≠ c := fun h => hc (h ▸ List.mem_cons_self)
    simp [List.isPrefixOf, hpc]
  | p :: ps, z :: zs, ys, hc => by
    simp only [List.cons_append, List.isPrefixOf]
    rw [isPrefixOf_append_cons zs ys fun h => hc (List.mem_cons_of_mem p h)]

/-- An occurrence never crosses a character the held text lacks. -/
theorem holds_append_cons {part : List Char} {c : Char} (hne : part ≠ []) (hc : c ∉ part)
    (ys : List Char) : ∀ xs : List Char, holds part (xs ++ c :: ys) = (holds part xs || holds part ys)
  | [] => by
    have hprefix := isPrefixOf_append_cons [] ys hc
    rw [List.nil_append] at hprefix
    cases part with
    | nil => exact absurd rfl hne
    | cons p ps => rw [List.nil_append, holds.eq_2, hprefix]; simp [holds, List.isPrefixOf]
  | x :: xs => by
    have hprefix := isPrefixOf_append_cons (x :: xs) ys hc
    rw [List.cons_append] at hprefix
    rw [List.cons_append, holds.eq_2, holds.eq_2, holds_append_cons hne hc ys xs, hprefix,
      Bool.or_assoc]

theorem holds_iff_occurs {part : List Char} : ∀ {cs : List Char}, holds part cs = true ↔ part <:+: cs
  | [] => by simp [holds, List.infix_nil]
  | c :: rest => by
    rw [holds.eq_2, Bool.or_eq_true, List.isPrefixOf_iff_prefix, holds_iff_occurs,
      List.infix_cons_iff]

theorem holds_eq_false_of_inside {part xs ys : List Char} (hxy : xs <:+: ys)
    (h : holds part ys = false) : holds part xs = false := by
  rw [Bool.eq_false_iff] at h ⊢
  exact fun hx => h (holds_iff_occurs.mpr ((holds_iff_occurs.mp hx).trans hxy))

/-- Characters the held text lacks can be skipped at the front. -/
theorem holds_append_of_not_mem {part : List Char} (hne : part ≠ []) {skip : List Char}
    (hskip : ∀ c ∈ skip, c ∉ part) (ys : List Char) : holds part (skip ++ ys) = holds part ys := by
  induction skip with
  | nil => rfl
  | cons c skip ih =>
    have hnil : holds part [] = false := by cases part <;> simp_all [holds]
    rw [List.cons_append, ← List.nil_append (c :: _),
      holds_append_cons hne (hskip c List.mem_cons_self), hnil, Bool.false_or,
      ih fun d hd => hskip d (List.mem_cons_of_mem c hd)]

theorem holds_append_sep {part : List Char} (hne : part ≠ []) {sep : List Char} (hsep : sep ≠ [])
    (hlack : ∀ c ∈ sep, c ∉ part) (xs ys : List Char) :
    holds part (xs ++ sep ++ ys) = (holds part xs || holds part ys) := by
  obtain ⟨c, sep, rfl⟩ := List.exists_cons_of_ne_nil hsep
  rw [List.append_assoc, List.cons_append, holds_append_cons hne (hlack c List.mem_cons_self),
    holds_append_of_not_mem hne fun d hd => hlack d (List.mem_cons_of_mem c hd)]

/-- A test on texts that a separator splits: when it fails on two texts, it fails on them
joined by the separator. Then it fails on any texts joined by the separator where it fails on
each of them. -/
theorem intercalate_eq_false {f : List Char → Bool} {sep : List Char} (hnil : f [] = false)
    (hsplit : ∀ xs ys, f (xs ++ sep ++ ys) = (f xs || f ys)) :
    ∀ texts : List (List Char), (∀ t ∈ texts, f t = false) → f (sep.intercalate texts) = false
  | [], _ => by rw [List.intercalate_nil, hnil]
  | [t], h => by rw [List.intercalate_singleton, h t List.mem_cons_self]
  | t :: t' :: texts, h => by
    rw [List.intercalate_cons_cons, hsplit, h t List.mem_cons_self,
      intercalate_eq_false hnil hsplit (t' :: texts) fun u hu => h u (List.mem_cons_of_mem t hu)]
    rfl

theorem progField_toList : ("%(" ++ "prog" ++ ")").toList = ['%', '(', 'p', 'r', 'o', 'g', ')'] := by
  decide

theorem asksFor_prog (text : String) :
    asksFor text "prog" = holds ['%', '(', 'p', 'r', 'o', 'g', ')'] text.toList := by
  rw [asksFor, progField_toList]

theorem asksFor_eq_false_of_not_mem {text : String} (h : '%' ∉ text.toList) :
    asksFor text "prog" = false := by
  rw [asksFor_prog]
  exact holds_eq_false_of_not_mem h

/-- Texts joined by a separator that holds no part of the request ask for the program's name
only where one of them does. -/
theorem asksFor_intercalate {sep : String} (hsep : sep ≠ "")
    (hlack : ∀ c ∈ sep.toList, c ∉ ['%', '(', 'p', 'r', 'o', 'g', ')']) {texts : List String}
    (h : ∀ t ∈ texts, asksFor t "prog" = false) : asksFor (sep.intercalate texts) "prog" = false := by
  rw [asksFor_prog, String.toList_intercalate]
  refine intercalate_eq_false (by decide)
    (holds_append_sep (by simp) (by simpa using hsep) hlack) _ fun t ht => ?_
  obtain ⟨u, hu, rfl⟩ := List.mem_map.mp ht
  rw [← asksFor_prog]
  exact h u hu

end Template

/-! ## Lines -/

namespace Terminal

theorem ne_cr_of_not_isLineBreak {c : Char} (hc : isLineBreak c = false) : c ≠ '\x0d' := by
  rintro rfl
  simp [isLineBreak] at hc

/-- Reading a run without line breaks only gathers it into the current line. -/
theorem linesWithBreaks_go_append {l : List Char} (hl : ∀ c ∈ l, isLineBreak c = false) :
    ∀ rest cur : List Char,
      linesWithBreaks.go (l ++ rest) cur = linesWithBreaks.go rest (l.reverse ++ cur) := by
  induction l with
  | nil => intro rest cur; rfl
  | cons x l ih =>
    intro rest cur
    have hx := hl x List.mem_cons_self
    rw [List.cons_append, linesWithBreaks.go.eq_3 _ _ _ fun _ h _ => ne_cr_of_not_isLineBreak hx h,
      hx, if_neg Bool.false_ne_true, ih (fun c hc => hl c (List.mem_cons_of_mem x hc))]
    simp

/-- Rows joined by line feeds are read back as the rows, each with its line feed but the last,
when no row holds a line break and the last one is not empty. -/
theorem linesWithBreaks_intercalate {r : String} {rs : List String}
    (hbreak : ∀ l ∈ r :: rs, ∀ c ∈ l.toList, isLineBreak c = false)
    (hlast : (r :: rs).getLast (List.cons_ne_nil r rs) ≠ "") :
    linesWithBreaks ("\n".intercalate (r :: rs)).toList =
      (r :: rs).dropLast.map (·.toList ++ ['\n']) ++ [((r :: rs).getLast (List.cons_ne_nil r rs)).toList] := by
  induction rs generalizing r with
  | nil =>
    have hne : r.toList ≠ [] := by simpa [String.toList_eq_nil_iff] using hlast
    simp only [String.intercalate_singleton, List.dropLast_singleton, List.map_nil,
      List.nil_append, List.getLast_singleton]
    unfold linesWithBreaks
    rw [← List.append_nil r.toList, linesWithBreaks_go_append (hbreak r List.mem_cons_self)]
    simp [linesWithBreaks.go.eq_1, hne]
  | cons r' rs ih =>
    have hrest := ih (r := r') (fun l hl => hbreak l (List.mem_cons_of_mem r hl))
      (by simpa using hlast)
    have hr := hbreak r List.mem_cons_self
    rw [String.intercalate_cons_cons, String.toList_append, String.toList_append,
      List.append_assoc]
    unfold linesWithBreaks at hrest ⊢
    rw [linesWithBreaks_go_append hr, show "\n".toList ++ ("\n".intercalate (r' :: rs)).toList =
        '\n' :: ("\n".intercalate (r' :: rs)).toList from rfl,
      linesWithBreaks.go.eq_3 _ _ _ (fun _ h _ => by cases h), if_pos (by decide), hrest]
    simp

/-- Cutting a text into lines keeps every character: the lines put back together are the
text. -/
theorem flatten_linesWithBreaks_go (cs cur : List Char) :
    (linesWithBreaks.go cs cur).flatten = cur.reverse ++ cs := by
  fun_induction linesWithBreaks.go cs cur with
  | case1 cur hcur => simp_all
  | case2 cur hcur => simp
  | case3 cur rest ih => simp [ih]
  | case4 cur c rest _ _ ih => simp [ih]
  | case5 cur c rest _ _ ih => simp [ih]

theorem flatten_linesWithBreaks (cs : List Char) : (linesWithBreaks cs).flatten = cs := by
  simp [linesWithBreaks, flatten_linesWithBreaks_go]

end Terminal

/-! ## Trimming blanks -/

namespace Text

theorem trimBlankRight_prefix (s : String) : (trimBlankRight s).toList <+: s.toList := by
  have h := (List.dropWhile_suffix isBlank (l := s.toList.reverse)).reverse
  rw [List.reverse_reverse] at h
  simpa [trimBlankRight] using h

theorem trimBlank_inside (s : String) : (trimBlank s).toList <:+: s.toList := by
  have hleft := List.dropWhile_suffix isBlank (l := s.toList)
  have hright :=
    (List.dropWhile_suffix isBlank (l := (s.toList.dropWhile isBlank).reverse)).reverse
  rw [List.reverse_reverse] at hright
  simpa [trimBlank] using hright.isInfix.trans hleft.isInfix

/-- A text with a character other than a blank is not trimmed away. -/
theorem trimBlankRight_ne_empty {s : String} (h : ∃ c ∈ s.toList, isBlank c = false) :
    trimBlankRight s ≠ "" := by
  obtain ⟨c, hc, hblank⟩ := h
  intro hempty
  have hnil := congrArg String.toList hempty
  simp only [trimBlankRight, String.toList_ofList, String.toList_empty, List.reverse_eq_nil_iff,
    List.dropWhile_eq_nil_iff, List.mem_reverse] at hnil
  simp [hnil c hc] at hblank

end Text

/-! ## Rows of the listing -/

def listingWidth (entries : List Descriptor) : Nat :=
  (entries.map (·.name.display.length)).foldl max 0

namespace Descriptor

/-- What a listed command's row shows after its name: its help, or, when it has aliases, the
help followed by ` [aliases: a, b]`, without blanks around. -/
def listingSummary (d : Descriptor) : String :=
  if d.aliases.isEmpty then d.help.display
  else Text.trimBlank (d.help.display ++ " [aliases: " ++
    ", ".intercalate (d.aliases.map Value.display) ++ "]")

/-- A listed command's row: its name padded to the section's width, two spaces and its
summary, without trailing blanks. -/
def listingRow (width : Nat) (d : Descriptor) : String :=
  Text.trimBlankRight
    (d.name.display ++ Help.spaces (width - d.name.display.length) ++ "  " ++ d.listingSummary)

end Descriptor

/-- Mapping that succeeds gives each member what the function gives it. -/
theorem Except.forall₂_of_mapM_ok {ε α β : Type} {f : α → Except ε β} :
    ∀ {l : List α} {bs : List β}, l.mapM f = .ok bs → List.Forall₂ (fun a b => f a = .ok b) l bs
  | [], bs, h => by
    simp only [List.mapM_nil, Except.pure_eq_ok, Except.ok.injEq] at h
    subst h
    exact .nil
  | a :: l, bs, h => by
    rw [List.mapM_cons] at h
    obtain ⟨b, hb, h⟩ := Except.bind_eq_ok.mp h
    obtain ⟨bs', hbs', h⟩ := Except.bind_eq_ok.mp h
    simp only [Except.pure_eq_ok, Except.ok.injEq] at h
    subst h
    exact .cons hb (Except.forall₂_of_mapM_ok hbs')

/-- Mapping that succeeds gives the map of any function that names each member's result. -/
theorem Except.mapM_ok_eq_map {ε α β : Type} {f : α → Except ε β} {g : α → β} {l : List α}
    {bs : List β} (h : l.mapM f = .ok bs) (hg : ∀ a ∈ l, ∀ b, f a = .ok b → b = g a) :
    bs = l.map g := by
  have hall := Except.forall₂_of_mapM_ok h
  clear h
  induction hall with
  | nil => rfl
  | @cons a b l bs hab _ ih =>
    rw [List.map_cons, hg a List.mem_cons_self b hab,
      ih (fun a' ha' => hg a' (List.mem_cons_of_mem a ha'))]

/-- Mapping a function that succeeds on every member succeeds with the results. -/
theorem Except.mapM_eq_ok_map {ε α β : Type} {f : α → Except ε β} {g : α → β} :
    ∀ {l : List α}, (∀ a ∈ l, f a = .ok (g a)) → l.mapM f = .ok (l.map g)
  | [], _ => rfl
  | a :: l, h => by
    rw [List.mapM_cons, h a List.mem_cons_self,
      Except.mapM_eq_ok_map fun a' ha' => h a' (List.mem_cons_of_mem a ha')]
    rfl

theorem nameLength_eq {v : Value} {n : Nat} (h : nameLength v = .ok n) : n = v.display.length := by
  cases v <;> simp [nameLength] at h
  subst h
  rfl

/-- Joined texts are the texts of the values, joined. -/
theorem joinTexts_eq {sep : String} {vs : List Value} {joined : String}
    (h : joinTexts sep vs = .ok joined) : joined = sep.intercalate (vs.map Value.display) := by
  unfold joinTexts at h
  obtain ⟨texts, hmap, h⟩ := Except.bind_eq_ok.mp h
  have htexts : texts = vs.zipIdx.map fun p => p.1.display :=
    Except.mapM_ok_eq_map hmap fun ⟨v, _⟩ _ t ht => by
      cases v <;> simp at ht
      subst ht
      rfl
  have hdisplay : (vs.zipIdx.map fun p => p.1.display) = vs.map Value.display := by
    rw [show (fun p : Value × Nat => p.1.display) = Value.display ∘ Prod.fst from rfl,
      ← List.map_map, List.zipIdx_map_fst]
  simp only [Except.pure_eq_ok, Except.ok.injEq] at h
  rw [← h, htexts, hdisplay]

/-- The rows of a section are the rows of its commands, padded to its width. -/
theorem listingRows_eq {entries : List Descriptor} {rows : List String}
    (h : listingRows entries = .ok rows) :
    rows = entries.map (·.listingRow (listingWidth entries)) := by
  unfold listingRows at h
  obtain ⟨widths, hwidths, h⟩ := Except.bind_eq_ok.mp h
  have hw : widths = entries.map (·.name.display.length) :=
    Except.mapM_ok_eq_map hwidths fun _ _ _ hn => nameLength_eq hn
  subst hw
  refine Except.mapM_ok_eq_map h fun d _ row hrow => ?_
  cases hal : d.aliases.isEmpty
  · simp only [hal, Bool.false_eq_true, if_false] at hrow
    obtain ⟨aliases, haliases, hrow⟩ := Except.bind_eq_ok.mp hrow
    simp only [Except.pure_eq_ok, Except.ok_bind, Except.ok.injEq] at hrow
    rw [← hrow, joinTexts_eq haliases]
    simp [Descriptor.listingRow, Descriptor.listingSummary, hal, listingWidth]
  · simp only [hal, if_true, Except.pure_eq_ok, Except.ok_bind, Except.ok.injEq] at hrow
    rw [← hrow]
    simp [Descriptor.listingRow, Descriptor.listingSummary, hal, listingWidth]

/-- Each section of the listing is shown under its placement's heading, with the rows of its
commands. -/
theorem listingSections_rows {listing : List (Placement × List Descriptor)}
    {sections : List (String × List String)} (h : listingSections listing = .ok sections) :
    List.Forall₂ (fun sec shown => sec.1.heading = .ok shown.1 ∧
      shown.2 = sec.2.map (·.listingRow (listingWidth sec.2))) listing sections := by
  unfold listingSections at h
  refine (Except.forall₂_of_mapM_ok h).imp fun ⟨p, entries⟩ ⟨heading, rows⟩ hsec => ?_
  obtain ⟨heading', hheading, hsec⟩ := Except.bind_eq_ok.mp hsec
  obtain ⟨rows', hrows, hsec⟩ := Except.bind_eq_ok.mp hsec
  simp only [Except.pure_eq_ok, Except.ok.injEq, Prod.mk.injEq] at hsec
  obtain ⟨rfl, rfl⟩ := hsec
  exact ⟨hheading, listingRows_eq hrows⟩

/-! ## Texts shown as they are -/

namespace Help

/-- Whether a text would be altered on a help page: it holds a line break, where the page
starts a new line, or it asks for the program's name, which the page fills in. -/
def altered (cs : List Char) : Bool :=
  cs.any Terminal.isLineBreak || Template.holds ['%', '(', 'p', 'r', 'o', 'g', ')'] cs

def showsVerbatim (t : String) : Bool := !altered t.toList

theorem showsVerbatim_iff {t : String} : showsVerbatim t = true ↔ altered t.toList = false := by
  simp [showsVerbatim]

theorem altered_eq_false_of_inside {xs ys : List Char} (hxy : xs <:+: ys)
    (h : altered ys = false) : altered xs = false := by
  simp only [altered, Bool.or_eq_false_iff, List.any_eq_false] at h ⊢
  exact ⟨fun c hc => h.1 c (hxy.subset hc), Template.holds_eq_false_of_inside hxy h.2⟩

/-- A separator of plain characters: no line break, and nothing of the request for the
program's name. -/
def plainSeparator (sep : List Char) : Prop :=
  sep ≠ [] ∧ ∀ c ∈ sep, Terminal.isLineBreak c = false ∧ c ∉ ['%', '(', 'p', 'r', 'o', 'g', ')']

/-- Texts joined by a plain separator are altered only where one of them is. -/
theorem altered_append_sep {sep : List Char} (hsep : plainSeparator sep) (xs ys : List Char) :
    altered (xs ++ sep ++ ys) = (altered xs || altered ys) := by
  have hbreak : sep.any Terminal.isLineBreak = false :=
    List.any_eq_false.mpr fun c hc => by simp [(hsep.2 c hc).1]
  simp only [altered, List.any_append, hbreak, Bool.or_false,
    Template.holds_append_sep (by simp) hsep.1 fun c hc => (hsep.2 c hc).2]
  ac_rfl

theorem altered_intercalate {sep : List Char} (hsep : plainSeparator sep)
    {texts : List (List Char)} (h : ∀ t ∈ texts, altered t = false) :
    altered (sep.intercalate texts) = false :=
  Template.intercalate_eq_false (by decide) (altered_append_sep hsep) texts h

end Help

namespace Descriptor

/-- Whether a listed command shows on the help page as it is: its name has a character other
than a blank, and its name, help and aliases show as they are. -/
def showsVerbatim (d : Descriptor) : Bool :=
  d.name.display.toList.any (!Text.isBlank ·) && Help.showsVerbatim d.name.display &&
    Help.showsVerbatim d.help.display && d.aliases.all (Help.showsVerbatim ·.display)

/-- The summary of a command whose help and aliases show as they are shows as it is: trimming
keeps a run of the help, the aliases and their frame, and the frame is plain. -/
theorem listingSummary_verbatim {d : Descriptor} (hhelp : Help.showsVerbatim d.help.display)
    (haliases : ∀ a ∈ d.aliases, Help.showsVerbatim a.display) :
    Help.showsVerbatim d.listingSummary := by
  unfold listingSummary
  split
  · exact hhelp
  · rw [Help.showsVerbatim_iff] at hhelp ⊢
    have hspace : Help.plainSeparator [' '] := ⟨by simp, by simp [Terminal.isLineBreak]⟩
    have hclose : Help.plainSeparator [']'] := ⟨by simp, by simp [Terminal.isLineBreak]⟩
    have hcomma : Help.plainSeparator [',', ' '] := ⟨by simp, by simp [Terminal.isLineBreak]⟩
    have hjoined : Help.altered (", ".intercalate (d.aliases.map Value.display)).toList = false := by
      rw [String.toList_intercalate, show ", ".toList = [',', ' '] by simp]
      refine Help.altered_intercalate hcomma fun t ht => ?_
      obtain ⟨u, hu, rfl⟩ := List.mem_map.mp ht
      obtain ⟨a, ha, rfl⟩ := List.mem_map.mp hu
      exact Help.showsVerbatim_iff.mp (haliases a ha)
    refine Help.altered_eq_false_of_inside (Text.trimBlank_inside _) ?_
    have hframe : (d.help.display ++ " [aliases: " ++ ", ".intercalate (d.aliases.map Value.display) ++
        "]").toList = d.help.display.toList ++ [' '] ++ (['[', 'a', 'l', 'i', 'a', 's', 'e', 's', ':'] ++
          [' '] ++ ((", ".intercalate (d.aliases.map Value.display)).toList ++ [']'] ++ [])) := by
      simp [String.toList_append]
    rw [hframe, Help.altered_append_sep hspace, Help.altered_append_sep hspace,
      Help.altered_append_sep hclose, hhelp, hjoined]
    decide

/-- The row of a command that shows as it is shows as it is, and is not empty. -/
theorem listingRow_verbatim {d : Descriptor} (hd : d.showsVerbatim = true) (width : Nat) :
    Help.showsVerbatim (d.listingRow width) ∧ d.listingRow width ≠ "" := by
  simp only [showsVerbatim, Bool.and_eq_true, List.all_eq_true] at hd
  obtain ⟨⟨⟨hblank, hname⟩, hhelp⟩, haliases⟩ := hd
  have hsummary := Help.showsVerbatim_iff.mp (listingSummary_verbatim hhelp haliases)
  -- the name and the summary, with the padding between them
  have hpadded : (d.name.display ++ Help.spaces (width - d.name.display.length) ++ "  " ++
      d.listingSummary).toList = d.name.display.toList ++
        (List.replicate (width - d.name.display.length) ' ' ++ [' ', ' ']) ++
        d.listingSummary.toList := by
    simp [Help.spaces, String.toList_append]
  have hpad : Help.plainSeparator (List.replicate (width - d.name.display.length) ' ' ++ [' ', ' ']) := by
    refine ⟨by simp, fun c hc => ?_⟩
    obtain rfl : c = ' ' := by
      rcases List.mem_append.mp hc with hc | hc
      · exact List.eq_of_mem_replicate hc
      · simpa using hc
    decide
  refine ⟨?_, Text.trimBlankRight_ne_empty ?_⟩
  · rw [Help.showsVerbatim_iff]
    refine Help.altered_eq_false_of_inside (Text.trimBlankRight_prefix _).isInfix ?_
    rw [hpadded, Help.altered_append_sep hpad, Help.showsVerbatim_iff.mp hname, hsummary]
    rfl
  · obtain ⟨c, hc, hcblank⟩ := List.any_eq_true.mp hblank
    exact ⟨c, by simp [String.toList_append, hc], by simpa using hcblank⟩

end Descriptor

/-! ## Text blocks -/

namespace Help

/-- The block of a section's rows: a line for each row, indented by two spaces, then a blank
line. -/
def rowsBlock (rows : List String) : String :=
  String.join (rows.map fun r => "  " ++ r ++ "\n") ++ "\n"

def shownSection (heading : String) (rows : List String) : String :=
  heading ++ ":\n" ++ rowsBlock rows

theorem nameProgram_of_asksFor {text : String} (h : Template.asksFor text "prog" = false)
    (prog : String) : nameProgram text prog = .ok text := by
  simp [nameProgram, h]

theorem join_map_ofList (ls : List (List Char)) :
    String.join (ls.map String.ofList) = String.ofList ls.flatten := by
  induction ls with
  | nil => rfl
  | cons l ls ih => simp [String.join_cons, ih, String.ofList_append]

theorem textBlock_unindented {text : String} (h : Template.asksFor text "prog" = false)
    (prog : String) : textBlock text 0 prog = .ok (text ++ "\n\n") := by
  have hspaces : spaces 0 = "" := rfl
  simp only [textBlock, nameProgram_of_asksFor h, Except.ok_bind, hspaces, String.empty_append]
  rw [join_map_ofList, Terminal.flatten_linesWithBreaks, String.ofList_toList]
  rfl

/-- Rows that show as they are, the last one not empty, make the block of one line per row. -/
theorem textBlock_rows {rows : List String} (hne : rows ≠ [])
    (hrows : ∀ r ∈ rows, showsVerbatim r = true) (hlast : rows.getLast hne ≠ "") (prog : String) :
    textBlock ("\n".intercalate rows) 2 prog = .ok (rowsBlock rows) := by
  have hask : Template.asksFor ("\n".intercalate rows) "prog" = false := by
    refine Template.asksFor_intercalate (by decide) (by simp) fun r hr => ?_
    have := showsVerbatim_iff.mp (hrows r hr)
    simp only [altered, Bool.or_eq_false_iff] at this
    rw [Template.asksFor_prog]
    exact this.2
  obtain ⟨r, rs, rfl⟩ := List.exists_cons_of_ne_nil hne
  have hbreak : ∀ l ∈ r :: rs, ∀ c ∈ l.toList, Terminal.isLineBreak c = false := by
    intro l hl c hc
    have := showsVerbatim_iff.mp (hrows l hl)
    simp only [altered, Bool.or_eq_false_iff, List.any_eq_false] at this
    simpa using this.1 c hc
  have hline : ∀ x : String, spaces 2 ++ String.ofList (x.toList ++ ['\n']) = "  " ++ x ++ "\n" := by
    intro x
    simp [spaces, String.ofList_append, String.append_assoc]
  -- the last row is the only one read without its line feed
  have hsplit := List.dropLast_append_getLast (List.cons_ne_nil r rs)
  simp only [textBlock, nameProgram_of_asksFor hask, Except.ok_bind,
    Terminal.linesWithBreaks_intercalate hbreak hlast, List.map_append, List.map_map,
    Function.comp_def, hline, rowsBlock]
  conv_rhs => rw [← hsplit, List.map_append, String.join_append]
  simp [spaces, String.append_assoc]

end Help

/-! ## Blank lines -/

namespace Help

/-- A stretch without line feeds and the line feed that ends it are kept; the line feed starts
a run. -/
theorem collapseBreaks_go_line {l : List Char} (hl : '\n' ∉ l) (hne : l ≠ []) (t : List Char)
    (run : Nat) : collapseBreaks.go (l ++ '\n' :: t) run = l ++ '\n' :: collapseBreaks.go t 1 := by
  rw [collapseBreaks_go_append hl hne, collapseBreaks.go.eq_2, if_neg (by omega)]

/-- Past two line feeds, how long the run is no longer matters. -/
theorem collapseBreaks_go_run (t : List Char) {a b : Nat} (ha : 2 ≤ a) (hb : 2 ≤ b) :
    collapseBreaks.go t a = collapseBreaks.go t b := by
  induction t generalizing a b with
  | nil => rfl
  | cons c t ih =>
    by_cases hc : c = '\n'
    · subst hc
      rw [collapseBreaks.go.eq_2, collapseBreaks.go.eq_2, if_pos ha, if_pos hb]
      exact ih (by omega) (by omega)
    · rw [collapseBreaks.go.eq_3 _ _ _ hc, collapseBreaks.go.eq_3 _ _ _ hc]

/-- A character other than a line feed ends every run: what follows it is collapsed on its
own. -/
theorem collapseBreaks_go_split {c : Char} (hc : c ≠ '\n') (ys : List Char) :
    ∀ (xs : List Char) (run : Nat), collapseBreaks.go (xs ++ c :: ys) run =
      collapseBreaks.go (xs ++ [c]) run ++ collapseBreaks.go ys 0
  | [], run => by
    rw [List.nil_append, List.nil_append, collapseBreaks.go.eq_3 _ _ _ hc,
      collapseBreaks.go.eq_3 _ _ _ hc]
    rfl
  | x :: xs, run => by
    by_cases hx : x = '\n'
    · subst hx
      simp only [List.cons_append, collapseBreaks.go.eq_2]
      split <;> simp [collapseBreaks_go_split hc ys xs]
    · simp only [List.cons_append, collapseBreaks.go.eq_3 _ _ _ hx,
        collapseBreaks_go_split hc ys xs]

/-- Every character other than a line feed is kept. -/
theorem mem_collapseBreaks_go {c : Char} (hc : c ≠ '\n') :
    ∀ {t : List Char} (run : Nat), c ∈ t → c ∈ collapseBreaks.go t run
  | [], _, h => absurd h List.not_mem_nil
  | x :: t, run, h => by
    by_cases hx : x = '\n'
    · subst hx
      have ht : c ∈ t := by simpa [hc] using h
      rw [collapseBreaks.go.eq_2]
      split
      · exact mem_collapseBreaks_go hc _ ht
      · exact List.mem_cons_of_mem _ (mem_collapseBreaks_go hc _ ht)
    · rw [collapseBreaks.go.eq_3 _ _ _ hx]
      rcases List.mem_cons.mp h with rfl | ht
      · exact List.mem_cons_self
      · exact List.mem_cons_of_mem _ (mem_collapseBreaks_go hc _ ht)

/-- Rows on lines of their own are kept. -/
theorem collapseBreaks_go_rows {rows : List String} (hrows : ∀ r ∈ rows, '\n' ∉ r.toList)
    (t : List Char) :
    collapseBreaks.go ((String.join (rows.map fun r => "  " ++ r ++ "\n")).toList ++ t) 1 =
      (String.join (rows.map fun r => "  " ++ r ++ "\n")).toList ++ collapseBreaks.go t 1 := by
  induction rows with
  | nil => rfl
  | cons r rows ih =>
    have hr : '\n' ∉ ' ' :: ' ' :: r.toList := by simpa using hrows r List.mem_cons_self
    have hsplit : (String.join ((r :: rows).map fun r => "  " ++ r ++ "\n")).toList ++ t =
        (' ' :: ' ' :: r.toList) ++ '\n' ::
          ((String.join (rows.map fun r => "  " ++ r ++ "\n")).toList ++ t) := by
      simp [String.join_cons, String.toList_append]
    rw [hsplit, collapseBreaks_go_line hr (List.cons_ne_nil _ _),
      ih fun r' hr' => hrows r' (List.mem_cons_of_mem r hr')]
    simp [String.join_cons, String.toList_append]

/-- A section after a blank line loses its opening line feed, which would make a second blank
line, and keeps the rest; the blank line it ends with stays one. -/
theorem collapseBreaks_go_section {heading : String} (hheading : '\n' ∉ heading.toList)
    {rows : List String} (hrows : ∀ r ∈ rows, '\n' ∉ r.toList) (t : List Char) {run : Nat}
    (hrun : 2 ≤ run) :
    collapseBreaks.go ((helpSection heading (rowsBlock rows)).toList ++ t) run =
      (shownSection heading rows).toList ++ collapseBreaks.go t run := by
  have hraw : (helpSection heading (rowsBlock rows)).toList ++ t =
      '\n' :: ((heading.toList ++ [':']) ++ '\n' ::
        ((String.join (rows.map fun r => "  " ++ r ++ "\n")).toList ++ '\n' :: '\n' :: t)) := by
    simp [helpSection, rowsBlock, String.toList_append]
  rw [hraw, collapseBreaks.go.eq_2, if_pos hrun,
    collapseBreaks_go_line (by simpa using hheading) (by simp), collapseBreaks_go_rows hrows,
    collapseBreaks.go.eq_2, if_neg (by omega), collapseBreaks.go.eq_2, if_pos (by omega),
    collapseBreaks_go_run t (by omega) hrun]
  simp [shownSection, rowsBlock, String.toList_append]

/-- Sections after a blank line read as their headings and rows. -/
theorem collapseBreaks_go_sections {secs : List (String × List String)}
    (hsecs : ∀ sec ∈ secs, '\n' ∉ sec.1.toList ∧ ∀ r ∈ sec.2, '\n' ∉ r.toList)
    (t : List Char) {run : Nat} (hrun : 2 ≤ run) :
    collapseBreaks.go ((String.join (secs.map fun sec =>
        helpSection sec.1 (rowsBlock sec.2))).toList ++ t) run =
      (String.join (secs.map fun sec => shownSection sec.1 sec.2)).toList ++
        collapseBreaks.go t run := by
  induction secs with
  | nil => rfl
  | cons sec secs ih =>
    have hsec := hsecs sec List.mem_cons_self
    simp only [List.map_cons, String.join_cons, String.toList_append, List.append_assoc]
    rw [collapseBreaks_go_section hsec.1 hsec.2 _ hrun,
      ih fun sec' hsec' => hsecs sec' (List.mem_cons_of_mem sec hsec')]

end Help

/-! ## The page -/

namespace Help

/-- Finishing a page that starts with a character other than a line feed, and holds one after
a given point, keeps everything before that point. -/
theorem finish_keeps_front {x : Char} (hx : x ≠ '\n') (xs ys : List Char)
    (hys : ∃ c ∈ ys, c ≠ '\n') :
    ((((x :: xs) ++ ys).dropWhile (· = '\n')).reverse.dropWhile (· = '\n')).reverse =
      x :: xs ++ (ys.reverse.dropWhile (· = '\n')).reverse := by
  obtain ⟨c, hc, hcl⟩ := hys
  have hkept : (ys.reverse.dropWhile (· = '\n')).isEmpty = false := by
    rw [List.isEmpty_eq_false_iff, ne_eq, List.dropWhile_eq_nil_iff]
    exact fun h => hcl (by simpa using h c (List.mem_reverse.mpr hc))
  rw [List.cons_append, List.dropWhile_cons_of_neg (by simpa using hx), ← List.cons_append,
    List.reverse_append, List.dropWhile_append, hkept]
  simp

theorem programDescription_asksFor : Template.asksFor programDescription "prog" = false :=
  Template.asksFor_eq_false_of_not_mem (by decide)

theorem programDescription_last :
    programDescription.toList = programDescription.toList.dropLast ++ ['s'] := by
  decide

/-- A page that opens with its usage line and the program's description, then the listing,
shows the listing's sections after a blank line, as their headings and rows read, whatever
follows them, when something other than line feeds follows. -/
theorem finishPage_sections {secs : List (String × List String)}
    (hsecs : ∀ sec ∈ secs, '\n' ∉ sec.1.toList ∧ ∀ r ∈ sec.2, '\n' ∉ r.toList)
    (usage positional options epilog : String) (hepilog : ∃ c ∈ epilog.toList, c ≠ '\n') :
    ∃ pre post, finishPage ("usage: " ++ usage ++ "\n\n" ++ (programDescription ++ "\n\n") ++
        String.join (secs.map fun sec => helpSection sec.1 (rowsBlock sec.2)) ++ positional ++
        options ++ epilog) =
      pre ++ "\n" ++ String.join (secs.map fun sec => shownSection sec.1 sec.2) ++ post := by
  obtain ⟨pd, hpd⟩ : ∃ pd, programDescription.toList = pd ++ ['s'] := ⟨_, programDescription_last⟩
  -- the page up to the last character of the description, and what follows the listing
  let front := ("sage: " ++ usage ++ "\n\n").toList ++ pd
  let back := (positional ++ options ++ epilog).toList
  have hpage : ("usage: " ++ usage ++ "\n\n" ++ (programDescription ++ "\n\n") ++
      String.join (secs.map fun sec => helpSection sec.1 (rowsBlock sec.2)) ++ positional ++
      options ++ epilog).toList = 'u' :: front ++ 's' :: '\n' :: '\n' ::
        ((String.join (secs.map fun sec => helpSection sec.1 (rowsBlock sec.2))).toList ++ back) := by
    simp [front, back, String.toList_append, hpd]
  have hback : ∃ c ∈ collapseBreaks.go back 2, c ≠ '\n' := by
    obtain ⟨c, hc, hcl⟩ := hepilog
    exact ⟨c, mem_collapseBreaks_go hcl 2 (by simp [back, String.toList_append, hc]), hcl⟩
  refine ⟨String.ofList ('u' :: collapseBreaks.go (front ++ ['s']) 0) ++ "\n",
    String.ofList ((collapseBreaks.go back 2).reverse.dropWhile (· = '\n')).reverse ++ "\n", ?_⟩
  have hcollapse : collapseBreaks.go ('u' :: front ++ 's' :: '\n' :: '\n' ::
      ((String.join (secs.map fun sec => helpSection sec.1 (rowsBlock sec.2))).toList ++ back)) 0 =
      'u' :: (collapseBreaks.go (front ++ ['s']) 0 ++ '\n' :: '\n' ::
        (String.join (secs.map fun sec => shownSection sec.1 sec.2)).toList) ++
        collapseBreaks.go back 2 := by
    rw [List.cons_append, collapseBreaks.go.eq_3 _ _ _ (by decide),
      collapseBreaks_go_split (by decide), collapseBreaks.go.eq_2, if_neg (by omega),
      collapseBreaks.go.eq_2, if_neg (by omega), collapseBreaks_go_sections hsecs _ (le_refl 2)]
    simp
  simp only [finishPage, collapseBreaks, String.toList_ofList, hpage, hcollapse]
  rw [finish_keeps_front (by decide) _ _ hback]
  simp [String.ext_iff, String.toList_append]

theorem showsVerbatim_lineFeed {t : String} (h : showsVerbatim t = true) : '\n' ∉ t.toList := by
  intro hmem
  have := showsVerbatim_iff.mp h
  simp only [altered, Bool.or_eq_false_iff, List.any_eq_false] at this
  exact absurd (this.1 '\n' hmem) (by decide)

open Matching in
/-- The help page of a program's top level shows the sections of its listing, each after a
blank line, as their headings and rows read, at every width, when the program's name asks for
nothing and the rows show as they are. -/
theorem topGrammar_formatHelp {program : String} (hprog : Template.asksFor program "prog" = false)
    (styles : Styles) {secs : List (String × List String)}
    (hsecs : ∀ sec ∈ secs, '\n' ∉ sec.1.toList ∧ sec.2 ≠ [] ∧
      ∀ r ∈ sec.2, showsVerbatim r = true ∧ r ≠ "")
    (listed names : List String) (columns : Int) :
    ∃ pre post, (topGrammar program styles secs listed names).formatHelp columns =
      .ok (pre ++ "\n" ++ String.join (secs.map fun sec => shownSection sec.1 sec.2) ++ post) := by
  -- the epilog names the program, between a quote and a blank
  have hepilog : Template.asksFor ("Use '" ++ program ++
      " help <COMMAND>' for more information on a specific command.") "prog" = false := by
    have hsplit : ("Use '" ++ program ++
        " help <COMMAND>' for more information on a specific command.").toList =
        ['U', 's', 'e'] ++ [' ', '\''] ++ (program.toList ++ [' '] ++
          "help <COMMAND>' for more information on a specific command.".toList) := by
      simp [String.toList_append]
    rw [Template.asksFor_prog, hsplit, Template.holds_append_sep (by simp) (by simp) (by simp),
      Template.holds_append_sep (by simp) (by simp) (by simp), ← Template.asksFor_prog, hprog,
      Template.holds_eq_false_of_not_mem (by simp), Template.holds_eq_false_of_not_mem (by simp)]
    rfl
  have hlisting : secs.mapM (fun x => do
      let block ← textBlock ("\n".intercalate x.2) 2 program
      Except.ok (helpSection x.1 block)) =
      .ok (secs.map fun sec => helpSection sec.1 (rowsBlock sec.2)) := by
    refine Except.mapM_eq_ok_map fun sec hsec => ?_
    obtain ⟨-, hne, hrows⟩ := hsecs sec hsec
    rw [textBlock_rows hne (fun r hr => (hrows r hr).1)
      (hrows _ (List.getLast_mem hne)).2 program]
    rfl
  simp only [Grammar.formatHelp, topGrammar, valueBlock,
    textBlock_unindented programDescription_asksFor, textBlock_unindented hepilog,
    Except.ok_bind, Except.pure_eq_ok]
  rw [hlisting, Except.ok_bind]
  simp only [Except.ok.injEq]
  exact finishPage_sections
    (fun sec hsec => ⟨(hsecs sec hsec).1, fun r hr => showsVerbatim_lineFeed ((hsecs sec hsec).2.2 r hr).1⟩)
    _ _ _ _ ⟨'U', by simp [String.toList_append], by decide⟩

end Help

/-- Mapping fails when the function fails on some member. -/
theorem Except.mapM_error_of_mem {ε α β : Type} {f : α → Except ε β} :
    ∀ {l : List α} {a : α}, a ∈ l → (∃ e, f a = .error e) → ∃ e, l.mapM f = .error e
  | b :: l, a, ha, ⟨e, he⟩ => by
    rw [List.mapM_cons]
    cases hb : f b with
    | error e' => exact ⟨e', rfl⟩
    | ok x =>
      rcases List.mem_cons.mp ha with rfl | ha
      · rw [he] at hb
        cases hb
      · obtain ⟨e', he'⟩ := Except.mapM_error_of_mem ha ⟨e, he⟩
        exact ⟨e', by simp [he']⟩

namespace Help

open Matching in
/-- A section whose rows cannot be laid out leaves the top level without a help page. -/
theorem topGrammar_formatHelp_error {program : String} {styles : Styles}
    {secs : List (String × List String)} {listed names : List String} {sec : String × List String}
    (hsec : sec ∈ secs) (hblock : ∃ fault, textBlock ("\n".intercalate sec.2) 2 program = .error fault)
    (columns : Int) :
    ∃ fault, (topGrammar program styles secs listed names).formatHelp columns = .error fault := by
  obtain ⟨fault, hlisting⟩ := @Except.mapM_error_of_mem Fault _ _ (fun x => do
      let block ← textBlock ("\n".intercalate x.2) 2 program
      Except.ok (helpSection x.1 block)) secs sec hsec (by
    obtain ⟨fault, hfault⟩ := hblock
    exact ⟨fault, by simp [hfault]⟩)
  simp only [Grammar.formatHelp, topGrammar, valueBlock,
    textBlock_unindented programDescription_asksFor, Except.ok_bind, Except.pure_eq_ok]
  rw [hlisting]
  exact ⟨fault, rfl⟩

end Help

/-! ## The listing on the top-level help page -/

/-- Headings hold no line feed. -/
theorem Placement.heading_lineFeed {p : Placement} {heading : String}
    (h : p.heading = .ok heading) : '\n' ∉ heading.toList := by
  cases p with
  | category c =>
    simp only [Placement.heading, Except.pure_eq_ok, Except.ok.injEq] at h
    subst h
    cases c <;> simp [HelpCategory.heading]
  | other v => simp [Placement.heading] at h

/-- The sections of a listing are not empty. -/
theorem listingOf_sections_ne_nil {pres : Presentation} {ds : List Descriptor}
    {listing : List (Placement × List Descriptor)} (h : listingOf pres ds = .ok listing) :
    ∀ sec ∈ listing, sec.2 ≠ [] := by
  unfold listingOf at h
  obtain ⟨order, -, h⟩ := Except.bind_eq_ok.mp h
  simp only [Except.pure_eq_ok, Except.ok.injEq] at h
  subst h
  intro sec hsec
  obtain ⟨p, -, hp⟩ := List.mem_filterMap.mp hsec
  split at hp
  · cases hp
  · rename_i hne
    cases hp
    simpa using hne

/-- A shown section has a heading without line feeds and rows that show as they are, when its
commands do. -/
theorem shown_sections_verbatim {listing : List (Placement × List Descriptor)}
    {sections : List (String × List String)}
    (hrows : List.Forall₂ (fun sec shown => sec.1.heading = .ok shown.1 ∧
      shown.2 = sec.2.map (·.listingRow (listingWidth sec.2))) listing sections)
    (hentries : ∀ sec ∈ listing, sec.2 ≠ [] ∧ ∀ d ∈ sec.2, d.showsVerbatim = true) :
    ∀ shown ∈ sections, '\n' ∉ shown.1.toList ∧ shown.2 ≠ [] ∧
      ∀ r ∈ shown.2, Help.showsVerbatim r = true ∧ r ≠ "" := by
  induction hrows with
  | nil => simp
  | @cons sec shown listing sections hsec _ ih =>
    intro shown' hshown'
    rcases List.mem_cons.mp hshown' with rfl | hshown'
    · obtain ⟨hne, hverbatim⟩ := hentries sec List.mem_cons_self
      refine ⟨Placement.heading_lineFeed hsec.1, by simpa [hsec.2] using hne, fun r hr => ?_⟩
      rw [hsec.2] at hr
      obtain ⟨d, hd, rfl⟩ := List.mem_map.mp hr
      exact Descriptor.listingRow_verbatim (hverbatim d hd) _
    · exact ih (fun sec' hsec' => hentries sec' (List.mem_cons_of_mem sec hsec')) shown' hshown'

/-- The top-level help page of a built schema lays out, at every width, the sections of its
listing as they are, when the program's name does not ask for itself and every command that is
not hidden shows as it is. -/
theorem Schema.build_top_formatHelp {cat : Catalog} {caps : CapabilitySet} {pres : Presentation}
    {verify : Bool} {s : Schema} (hbuild : Schema.build cat caps pres verify = .ok s)
    (hprog : Template.asksFor pres.program "prog" = false)
    (hshown : ∀ d ∈ s.descriptors, d.hidden = false → d.showsVerbatim = true) (columns : Int) :
    ∃ pre post, s.top.formatHelp columns =
      .ok (pre ++ "\n" ++ String.join (s.top.sections.map fun sec => Help.shownSection sec.1 sec.2) ++
        post) := by
  obtain ⟨ds, listing, sections, -, -, -, hlisting, hsections, rfl⟩ := Schema.build_parts hbuild
  have hrows := listingSections_rows hsections
  refine Help.topGrammar_formatHelp hprog _ (shown_sections_verbatim hrows fun sec hsec => ?_) _ _ columns
  refine ⟨listingOf_sections_ne_nil hlisting sec hsec, fun d hd => ?_⟩
  obtain ⟨hmem, hhidden⟩ := listingOf_entries hlisting sec hsec d hd
  exact hshown d hmem hhidden

/-- What the top-level help page of a schema shows of its listing, at a terminal width. -/
structure ShowsListingRows (s : Schema) (columns : Int) : Prop where
  /-- Each section of the listing is shown under its placement's heading, with a row for each
  of its commands: the name padded to the section's longest name, two spaces and the
  summary, without trailing blanks. -/
  rows : ∃ listing, s.listing = .ok listing ∧
    List.Forall₂ (fun sec shown => sec.1.heading = .ok shown.1 ∧
      shown.2 = sec.2.map (·.listingRow (listingWidth sec.2))) listing s.top.sections
  /-- The page holds the sections in order, after a blank line, each as its heading line, a
  line for each row indented by two spaces, and a blank line. -/
  page : ∃ pre post, s.top.formatHelp columns =
    .ok (pre ++ "\n" ++ String.join (s.top.sections.map fun sec => Help.shownSection sec.1 sec.2) ++
      post)

/-- The top-level help page shows every section of the listing as its heading line followed by
its rows, each row unaltered on a line of its own, at every terminal width. This holds when the
program's name does not ask for itself and every command that is not hidden shows as it is:
its name has a character other than a blank, and its name, help and aliases hold no line
break and do not ask for the program's name. -/
theorem help_page_shows_listing_rows {cat : Catalog} {caps : CapabilitySet} {pres : Presentation}
    {verify : Bool} {s : Schema} (hbuild : Schema.build cat caps pres verify = .ok s)
    (hprog : Template.asksFor pres.program "prog" = false)
    (hshown : ∀ d ∈ s.descriptors, d.hidden = false → d.showsVerbatim = true) (columns : Int) :
    ShowsListingRows s columns := by
  have hpage := Schema.build_top_formatHelp hbuild hprog hshown columns
  obtain ⟨ds, listing, sections, -, -, -, hlisting, hsections, rfl⟩ := Schema.build_parts hbuild
  exact ⟨⟨listing, hlisting, listingSections_rows hsections⟩, hpage⟩

theorem review_help_page :
    ∃ s, Schema.build reviewCatalog .standard {} false = .ok s ∧ ShowsListingRows s 80 :=
  ⟨_, rfl, @help_page_shows_listing_rows reviewCatalog .standard {} false _ rfl (by decide)
    (by decide) 80⟩

/-- A catalog of one common command whose help asks for the program's name but names no
conversion. -/
def unfinishedTemplateCatalog : Catalog :=
  ⟨[.descriptor { name := .str "log", handler := .help, args := .none, help := .str "%(prog)",
                  placement := .category .common }]⟩

/-- A row the page cannot lay out leaves no page: the help page of a schema with a command whose
help asks for the program's name without naming a conversion fails at every width. -/
theorem unfinished_template_breaks_help :
    ∃ s, Schema.build unfinishedTemplateCatalog .standard {} false = .ok s ∧
      s.top.sections = [("Common Commands", ["log  %(prog)"])] ∧
      ∀ columns, ∃ fault, s.top.formatHelp columns = .error fault := by
  refine ⟨_, rfl, rfl, fun columns => ?_⟩
  show ∃ fault, (topGrammar "jj" {} [("Common Commands", ["log  %(prog)"])] _ _).formatHelp columns =
    .error fault
  exact Help.topGrammar_formatHelp_error List.mem_cons_self ⟨_, rfl⟩ columns

end CommandLine
