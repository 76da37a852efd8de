import CommandLine.Proofs.Routing
import CommandLine.Proofs.DisabledCommands

/-!
# Names no command answers to

A line whose command name is no command's is refused by the command positional, with the
message `argument <COMMAND>: invalid choice: 'NAME' (choose from ...)`, and the top-level
grammar turns that message into an `unrecognized subcommand` error. The name this error
reports is read back out of the message: it is what stands between the quotes of the
name's literal form, up to the first quote character (`Text.readBack`). For a plain name
(printable, without a backslash, and not holding both kinds of quote) that is the name
itself (`Text.readBack_of_plain`); for any other name it is the escaped form, cut short at an
escaped quote, so that `a\b` is reported as `a\\b`. The most similar listed name is then
sought for the name read back. The built-in `help` command names the typed text as it is.

The refusal of a name reads back as `Text.readBack` of it
(`Matching.invalidCommandName?_invalidChoice`), after the global options have had their effect
(`Schema.WellBuilt.matchArgs_unknown`); `unknown_commands_reported` states how a built schema
reports such a name, when matching a line and in the `help` command.
-/

namespace CommandLine

/-! ## The literal form of a text -/

namespace Text

def escapedChars (q : Char) (s : String) : List Char :=
  s.toList.flatMap fun c => (escapeChar q c).toList

/-- What a reader of a literal finds between its opening quote and the next quote character:
the escaped characters up to the first quote among them. -/
def readBack (s : String) : String :=
  String.ofList ((escapedChars (quoteFor s) s).takeWhile (· ≠ quoteFor s))

/-- A text whose literal form is the text between quotes: every character printable, no
backslash, and not both kinds of quote. -/
def Plain (s : String) : Prop :=
  (∀ c ∈ s.toList, isPrintable c = true ∧ c ≠ '\\') ∧ ¬('\'' ∈ s.toList ∧ '"' ∈ s.toList)

theorem foldl_escape_toList (q : Char) (cs : List Char) (acc : String) :
    (cs.foldl (fun acc c => acc ++ escapeChar q c) acc).toList =
      acc.toList ++ cs.flatMap fun c => (escapeChar q c).toList := by
  induction cs generalizing acc with
  | nil => simp
  | cons c cs ih => simp [ih, String.toList_append]

theorem quote_toList (s : String) :
    (quote s).toList = quoteFor s :: escapedChars (quoteFor s) s ++ [quoteFor s] := by
  simp [quote, escapedChars, foldl_escape_toList, String.toList_append]

theorem quoteFor_ne_lineFeed (s : String) : quoteFor s ≠ '\n' := by
  unfold quoteFor
  split <;> decide

theorem quoteFor_isQuote (s : String) : quoteFor s = '\'' ∨ quoteFor s = '"' := by
  unfold quoteFor
  split
  · exact .inr rfl
  · exact .inl rfl

/-! ### No line feed in a literal -/

theorem digitChar_ne_lineFeed (n : Nat) : n.digitChar ≠ '\n' := Nat.digitChar_ne _ (by decide)

theorem lineFeed_not_mem_toDigits (n : Nat) : '\n' ∉ Nat.toDigits 16 n := by
  induction n using Nat.strongRecOn with
  | _ n ih =>
    rw [Nat.toDigits_eq_if (by decide)]
    split
    · simp [(digitChar_ne_lineFeed n).symm]
    · simp only [List.mem_append, List.mem_singleton, not_or]
      exact ⟨ih (n / 16) (by omega), (digitChar_ne_lineFeed _).symm⟩

theorem ne_lineFeed_of_isPrintable {c : Char} (h : isPrintable c = true) : c ≠ '\n' := by
  rintro rfl
  exact absurd h (by decide)

/-- No escaped character is a line feed: the line feed itself is written `\n`. -/
theorem lineFeed_not_mem_escapeChar {q : Char} (hq : q ≠ '\n') (c : Char) :
    '\n' ∉ (escapeChar q c).toList := by
  unfold escapeChar
  split
  · next h => rcases h with rfl | rfl <;> simp [Ne.symm hq]
  split
  · simp
  split
  · simp
  split
  · simp
  split
  · next h => simp [Ne.symm (ne_lineFeed_of_isPrintable h)]
  -- a code point written in hexadecimal
  split
  · simp [String.toList_append, hexPadded, lineFeed_not_mem_toDigits]
  split <;> simp [String.toList_append, hexPadded, lineFeed_not_mem_toDigits]

theorem lineFeed_not_mem_escapedChars (s : String) :
    '\n' ∉ escapedChars (quoteFor s) s := by
  simp only [escapedChars, List.mem_flatMap, not_exists, not_and]
  exact fun c _ => lineFeed_not_mem_escapeChar (quoteFor_ne_lineFeed s) c

/-! ### Plain texts read back as themselves -/

theorem ne_quoteFor_of_plain {s : String} (h : Plain s) {c : Char} (hc : c ∈ s.toList) :
    c ≠ quoteFor s := by
  unfold quoteFor
  split
  · next hq =>
    -- the literal is in double quotes because the text holds none
    rintro rfl
    simp only [String.contains_char_eq, Bool.and_eq_true, decide_eq_true_eq, Bool.not_eq_true',
      decide_eq_false_iff_not] at hq
    exact hq.2 hc
  · next hq =>
    -- in single quotes, the text holds no apostrophe or also a double quote
    rintro rfl
    simp only [String.contains_char_eq, Bool.and_eq_true, decide_eq_true_eq, Bool.not_eq_true',
      decide_eq_false_iff_not, not_and, Decidable.not_not] at hq
    exact h.2 ⟨hc, hq hc⟩

theorem escapeChar_of_plain {s : String} (h : Plain s) {c : Char} (hc : c ∈ s.toList) :
    escapeChar (quoteFor s) c = String.singleton c := by
  obtain ⟨hprint, hslash⟩ := h.1 c hc
  have hq := ne_quoteFor_of_plain h hc
  have htab : c ≠ '\t' := by
    rintro rfl
    exact absurd hprint (by decide)
  have hret : c ≠ '\r' := by
    rintro rfl
    exact absurd hprint (by decide)
  simp [escapeChar, hq, hslash, htab, ne_lineFeed_of_isPrintable hprint, hret, hprint]

theorem flatMap_escapeChar_of_forall {q : Char} {cs : List Char}
    (h : ∀ c ∈ cs, escapeChar q c = String.singleton c) :
    cs.flatMap (fun c => (escapeChar q c).toList) = cs := by
  induction cs with
  | nil => rfl
  | cons c cs ih =>
    rw [List.flatMap_cons, h c List.mem_cons_self, ih fun c hc => h c (List.mem_cons_of_mem _ hc)]
    simp

theorem readBack_of_plain {s : String} (h : Plain s) : readBack s = s := by
  have hchars : escapedChars (quoteFor s) s = s.toList :=
    flatMap_escapeChar_of_forall fun c hc => escapeChar_of_plain h hc
  unfold readBack
  rw [hchars, ← List.append_nil s.toList,
    List.takeWhile_append_of_pos fun c hc => by simpa using ne_quoteFor_of_plain h hc]
  simp

theorem readBack_backslash : readBack "a\\b" = "a\\\\b" := by
  simp [readBack, escapedChars, quoteFor, escapeChar, isPrintable]

end Text

/-! ## Reading the name back out of the refusal -/

namespace Matching

open Text

/-- Reading up to the closing quote or a line feed stops, in a literal without a line feed,
at the first quote, and the character it stops at is that quote. -/
theorem takeWhile_quoted (q : Char) (more : List Char) {body : List Char} (hbody : '\n' ∉ body) :
    (body ++ q :: more).takeWhile (fun c => decide (c ≠ q ∧ c ≠ '\n')) =
        body.takeWhile (· ≠ q) ∧
      ((body ++ q :: more).drop (body.takeWhile (· ≠ q)).length).head? = some q := by
  induction body with
  | nil => simp
  | cons c body ih =>
    simp only [List.mem_cons, not_or] at hbody
    by_cases hc : c = q
    · subst hc
      simp
    · have hlf : c ≠ '\n' := Ne.symm hbody.1
      obtain ⟨htake, hhead⟩ := ih hbody.2
      have hkeep : decide (c ≠ q ∧ c ≠ '\n') = true := by simp [hc, hlf]
      have hkeep' : decide (c ≠ q) = true := by simp [hc]
      rw [List.cons_append, List.takeWhile_cons, if_pos hkeep, List.takeWhile_cons, if_pos hkeep',
        htake]
      exact ⟨rfl, by simpa using hhead⟩

/-- The name the refusal of a command name is read back as. -/
theorem invalidCommandName?_invalidChoice (x : String) (names : List String) :
    invalidCommandName? (argumentMessage "<COMMAND>" (invalidChoice x names)) =
      some (readBack x) := by
  have hmsg : (argumentMessage "<COMMAND>" (invalidChoice x names)).toList =
      "argument <COMMAND>: invalid choice: ".toList ++ (quoteFor x :: (escapedChars (quoteFor x) x ++
        quoteFor x :: (" (choose from " ++ ", ".intercalate (names.map quote) ++ ")").toList)) := by
    have hlead : ∀ t : List Char, "argument ".toList ++ ("<COMMAND>".toList ++ (": ".toList ++
        ("invalid choice: ".toList ++ t))) = "argument <COMMAND>: invalid choice: ".toList ++ t := by
      intro t
      simp
    unfold argumentMessage invalidChoice
    simp only [String.toList_append, quote_toList, List.append_assoc, List.cons_append, hlead,
      List.nil_append]
  have hstarts : (argumentMessage "<COMMAND>" (invalidChoice x names)).startsWith
      "argument <COMMAND>: invalid choice: " = true :=
    String.startsWith_string_iff.mpr ⟨_, hmsg.symm⟩
  obtain ⟨htake, hhead⟩ := takeWhile_quoted (quoteFor x)
    (" (choose from " ++ ", ".intercalate (names.map quote) ++ ")").toList
    (lineFeed_not_mem_escapedChars x)
  unfold invalidCommandName?
  simp only [hstarts, Bool.not_true, Bool.false_eq_true, if_false, hmsg]
  rw [List.drop_left' String.length_toList]
  simp only [quoteFor_isQuote x, if_true, htake, hhead]
  rfl

/-- The unrecognized-subcommand error of a grammar for a name that is not a choice: the name
read back, the most similar listed name to it, the pointer to help and the usage line. -/
theorem Grammar.usageError_invalidChoice (g : Grammar) (columns : Int) (x : String)
    (names : List String) :
    g.usageError columns (argumentMessage "<COMMAND>" (invalidChoice x names)) =
      { kind := .usage
        message := "unrecognized subcommand '" ++ readBack x ++ "'"
        suggestions := List.map .str (((closestMatch (readBack x) g.listedNames).map fun y =>
          "a similar subcommand exists: '" ++ y ++ "'").toList ++
          ["For more information, try '" ++ g.prog ++ " --help'"])
        usage := some (trimBlank (g.formatUsage columns)) } := by
  unfold Grammar.usageError
  rw [invalidCommandName?_invalidChoice]

end Matching

/-! ## The usage line of the top level -/

namespace Help

/-- Line feeds are collapsed only in runs: a stretch without one is kept, and ends the run. -/
theorem collapseBreaks_go_append {cs : List Char} (hcs : '\n' ∉ cs) (hne : cs ≠ [])
    (t : List Char) (run : Nat) :
    collapseBreaks.go (cs ++ t) run = cs ++ collapseBreaks.go t 0 := by
  induction cs generalizing run with
  | nil => exact absurd rfl hne
  | cons c cs ih =>
    simp only [List.mem_cons, not_or] at hcs
    have hc : c ≠ '\n' := Ne.symm hcs.1
    rw [List.cons_append, collapseBreaks.go.eq_3 _ _ _ hc]
    cases cs with
    | nil => rfl
    | cons d cs =>
      rw [ih hcs.2 (List.cons_ne_nil d cs)]
      rfl

theorem dropWhile_lineFeed {l : List Char} (hl : '\n' ∉ l) (hne : l ≠ []) (t : List Char) :
    (l ++ t).dropWhile (· = '\n') = l ++ t := by
  obtain ⟨c, l, rfl⟩ := List.exists_cons_of_ne_nil hne
  have hc : c ≠ '\n' := fun h => hl (h ▸ List.mem_cons_self)
  simp [hc]

/-- A page of one line without line feeds, followed by a blank line, ends with one line feed. -/
theorem finishPage_line {l : List Char} (hl : '\n' ∉ l) (hne : l ≠ []) :
    finishPage (String.ofList l ++ "\n\n") = String.ofList l ++ "\n" := by
  have hcollapse : (collapseBreaks (String.ofList l ++ "\n\n")).toList = l ++ ['\n', '\n'] := by
    have hgo : collapseBreaks.go (l ++ ['\n', '\n']) 0 = l ++ ['\n', '\n'] := by
      rw [collapseBreaks_go_append hl hne]
      rfl
    simp [collapseBreaks, String.toList_append, hgo]
  have hrev : l.reverse ≠ [] := by simpa using hne
  have hl' : '\n' ∉ l.reverse := by simpa using hl
  have hback : (l ++ ['\n', '\n']).reverse = ['\n', '\n'] ++ (l.reverse ++ []) := by simp
  unfold finishPage
  simp only [hcollapse, dropWhile_lineFeed hl hne, hback]
  rw [List.dropWhile_append_of_pos (by simp), dropWhile_lineFeed hl' hrev]
  simp

end Help

theorem Text.trimBlank_line {a b : Char} {m : List Char} (ha : Text.isBlank a = false)
    (hb : Text.isBlank b = false) :
    Text.trimBlank (String.ofList (a :: m ++ [b]) ++ "\n") = String.ofList (a :: m ++ [b]) := by
  have hlf : Text.isBlank '\n' = true := by decide
  simp [Text.trimBlank, String.toList_append, ha, hb, hlf]

open Matching Help in
/-- The usage line of a program's top level, when the program's name holds no line feed. -/
theorem topGrammar_usage {program : String} (hprog : '\n' ∉ program.toList) (sty : Styles)
    (secs : List (String × List String)) (listed names : List String) (columns : Int) :
    Text.trimBlank ((topGrammar program sty secs listed names).formatUsage columns) =
      "usage: " ++ program ++ " [OPTIONS] <COMMAND>" := by
  -- the usage line, between its first and last characters
  let middle := "sage: ".toList ++ program.toList ++ " [OPTIONS] <COMMAND".toList
  have hline : "usage: " ++ program ++ " [OPTIONS] <COMMAND>" =
      String.ofList ('u' :: middle ++ ['>']) := by
    simp [middle, String.ext_iff, String.toList_append]
  have hmiddle : '\n' ∉ 'u' :: middle ++ ['>'] := by
    simp [middle, hprog]
  have hpage : (topGrammar program sty secs listed names).formatUsage columns =
      finishPage (String.ofList ('u' :: middle ++ ['>']) ++ "\n\n") := by
    rw [← hline]
    simp [Grammar.formatUsage, Grammar.usageBody, topGrammar, String.append_assoc]
  rw [hpage, finishPage_line hmiddle (by simp), Text.trimBlank_line (by decide) (by decide), hline]

/-! ## Reporting a name no command answers to -/

open Matching

/-- The report the documentation gives for a command name `shown` that no command answers
to: the name, the most similar listed name to it if any, a pointer to the help and the usage
line. -/
def Schema.unknownReport (s : Schema) (shown : String) : CliError where
  kind := .usage
  message := "unrecognized subcommand '" ++ shown ++ "'"
  suggestions := List.map .str (((closestMatch shown s.top.listedNames).map fun y =>
    "a similar subcommand exists: '" ++ y ++ "'").toList ++
    ["For more information, try '" ++ s.program ++ " --help'"])
  usage := some ("usage: " ++ s.program ++ " [OPTIONS] <COMMAND>")

theorem Schema.not_mem_commandNames {s : Schema} {x : String} (hx : .str x ∉ s.matchableNames) :
    x ∉ s.names.filterMap (·.1.asString?) := fun hchoice => by
  -- the choices are the registered names that are texts
  obtain ⟨⟨v, o⟩, hvo, hstr⟩ := List.mem_filterMap.mp hchoice
  exact hx (List.mem_map.mpr ⟨(v, o), hvo, (Value.asString?_eq_some_iff _ _).mp hstr⟩)

namespace Schema.WellBuilt

variable {s : Schema} (hs : s.WellBuilt)
include hs

/-- A line of accepted global options and a name no command answers to, whatever follows,
is refused with the report of the name read back; the color options have had their effect. -/
theorem matchArgs_unknown (hprog : '\n' ∉ s.program.toList) {x : String}
    (hhead : x.toList.head? ≠ some '-') (hx : .str x ∉ s.matchableNames) {gs : List GlobalOption}
    (hv : ∀ o ∈ gs, o.Valid) (rest : List String) (columns : Int) (terminal : Bool) :
    s.matchArgs columns (globalTokens gs ++ x :: rest) terminal =
      (.error (.usage (s.unknownReport (Text.readBack x))), GlobalOption.chooseColors gs { terminal }) := by
  obtain ⟨sections, listed, htop⟩ := hs.top
  unfold Schema.matchArgs
  rw [htop, topGrammar_parse_unknown hv (Schema.not_mem_commandNames hx) hhead rest { terminal },
    Grammar.usageError_invalidChoice, topGrammar_usage hprog]
  simp only [Schema.unknownReport, htop]
  rfl

end Schema.WellBuilt

/-- The `help` command given a name no command answers to names it as it was typed. -/
theorem Schema.helpCommand_unknown {s : Schema} {x : String} (hx : .str x ∉ s.matchableNames)
    (ui : Ui) (more : List Value) :
    s.helpCommand ui (.help (.str x :: more)) =
      throw (.cli { kind := .usage, message := "unrecognized subcommand '" ++ x ++ "'"
                    suggestions := [.str ("Use '" ++ s.program ++ " help' to list the available commands")] }) := by
  simp only [Schema.helpCommand, pure_bind, Schema.grammarFor?_str_of_not_mem hx]
  rfl

/-- In a built schema, every listed name is the canonical name or a listed alias of an
enabled command that is not hidden. -/
theorem Schema.build_listed {cat : Catalog} {caps : CapabilitySet} {pres : Presentation}
    {verify : Bool} {s : Schema} (h : Schema.build cat caps pres verify = .ok s) {y : String}
    (hy : y ∈ s.top.listedNames) :
    ∃ d ∈ s.descriptors, d.hidden = false ∧ .str y ∈ d.name :: d.aliases := by
  obtain ⟨r, listing, sections, -, hl, rfl⟩ := Schema.build_eq_ok h
  obtain ⟨pe, hpe, d, hd, hy⟩ := mem_listedNames hy
  obtain ⟨hmem, hhidden⟩ := listingOf_entries hl pe hpe d hd
  exact ⟨d, hmem, hhidden, hy⟩

/-- How a schema reports a name `x` that no command answers to. Matching a line that names
it after accepted global options is refused with the documented report of the name read back
from its literal form, which is `x` itself when `x` is plain; the similar name offered is a
listed name of an enabled command that is not hidden; and the `help` command names `x` as it
was typed. -/
structure Schema.ReportsUnknown (s : Schema) (x : String) : Prop where
  match_refused : ∀ gs : List GlobalOption, (∀ o ∈ gs, o.Valid) → ∀ rest columns terminal,
    s.matchArgs columns (globalTokens gs ++ x :: rest) terminal =
      (.error (.usage (s.unknownReport (Text.readBack x))), GlobalOption.chooseColors gs { terminal })
  plain_shown : Text.Plain x → Text.readBack x = x
  similar_listed : ∀ y, closestMatch (Text.readBack x) s.top.listedNames = some y →
    ∃ d ∈ s.descriptors, d.hidden = false ∧ .str y ∈ d.name :: d.aliases
  help_refused : ∀ ui more, s.helpCommand ui (.help (.str x :: more)) =
    throw (.cli { kind := .usage, message := "unrecognized subcommand '" ++ x ++ "'"
                  suggestions := [.str ("Use '" ++ s.program ++ " help' to list the available commands")] })

theorem unknown_commands_reported {cat : Catalog} {caps : CapabilitySet} {pres : Presentation}
    {verify : Bool} {s : Schema} (hbuild : Schema.build cat caps pres verify = .ok s)
    (hprog : '\n' ∉ s.program.toList) {x : String} (hhead : x.toList.head? ≠ some '-')
    (hx : .str x ∉ s.matchableNames) : s.ReportsUnknown x where
  match_refused _ hv rest columns terminal :=
    (Schema.build_wellBuilt hbuild).matchArgs_unknown hprog hhead hx hv rest columns terminal
  plain_shown := Text.readBack_of_plain
  similar_listed _ hy := Schema.build_listed hbuild (closestMatch_mem hy)
  help_refused := Schema.helpCommand_unknown hx

/-- A misspelt command of a catalog of one command is reported as typed. -/
theorem misspelt_log_reported :
    ∃ s, Schema.build ⟨[.descriptor { name := .str "log", handler := .version, args := .raw }]⟩
        .standard {} = .ok s ∧ '\n' ∉ s.program.toList ∧ "lgo".toList.head? ≠ some '-' ∧
      .str "lgo" ∉ s.matchableNames ∧ s.ReportsUnknown "lgo" := by
  have hbuild : Schema.build ⟨[.descriptor { name := .str "log", handler := .version, args := .raw }]⟩
      .standard {} = .ok _ := rfl
  have hprog : '\n' ∉ (Presentation.program {}).toList := by decide
  have hhead : "lgo".toList.head? ≠ some '-' := by decide
  have hx : Value.str "lgo" ∉ [Value.str "log"] := by simp
  exact ⟨_, hbuild, hprog, hhead, hx, unknown_commands_reported hbuild hprog hhead hx⟩

end CommandLine
