import CommandLine.Proofs.Scan

/-!
# What a scan writes

A scan of a grammar writes only the attributes its own arguments store into: the
destinations of its options and of its positionals (`Grammar.dests`), and what the command
positional merges in from the command's grammar. Every other attribute keeps the value the
grammar's initial namespace gives it, however the line is made (`Grammar.parseKnown_keeps`).

The argument is an invariant of the scan, `Scan.Keeps`: one lemma per step of the scan
(reading a cluster of options, applying an option, applying a positional, consuming
positionals or an option) shows that the step keeps it, and the scan loop keeps it by
induction on its fuel. The options a step can meet are the grammar's own, since every kind
of the line names an option of the grammar (`Grammar.OwnsKinds`).
-/

namespace CommandLine.Matching

open ScanM

/-- The attributes a grammar's arguments store into: the destinations of its options, then
those of its positionals. -/
def Grammar.dests (g : Grammar) : List String :=
  g.options.filterMap OptionSpec.dest? ++ g.positionals.map (·.dest)

/-- Every option the kinds of a line name is one of the grammar's options. -/
def Grammar.OwnsKinds (g : Grammar) (ks : List Kind) : Prop :=
  ∀ m, Kind.option m ∈ ks → ∀ o, m.option = some o → o ∈ g.options

/-- What reading a string may give: nothing, or a reading that names, if any, an option of
the grammar. -/
def Grammar.ReadsOwn (g : Grammar) (r : Option OptionMatch) : Prop :=
  ∀ m, r = some m → ∀ o, m.option = some o → o ∈ g.options

/-- A scan that still reads `v` at the key and has only positionals of the grammar left. -/
structure Scan.Keeps (g : Grammar) (key : String) (v : Option Value) (st : Scan) : Prop where
  lookup : Value.lookup st.ns key = v
  positionals : ∀ p ∈ st.positionals, p ∈ g.positionals

/-- A subcommand that never hands back the key. -/
def Subcommand.Avoids (sub : Subcommand) (key : String) : Prop :=
  ∀ name rest, (sub name rest).Ensures fun r => Value.lookup r.1 key = none

theorem noSubcommand_avoids (key : String) : noSubcommand.Avoids key :=
  fun _ _ => ensures_pure rfl

namespace Grammar

variable {g : Grammar} {columns : Int}

/-! ## The options a line names -/

theorem mem_optionTable {s : String} {o : OptionSpec} (h : (s, o) ∈ g.optionTable) :
    o ∈ g.options := by
  simp only [optionTable, List.mem_flatMap, List.mem_map, Prod.mk.injEq] at h
  obtain ⟨o', ho', s', -, -, rfl⟩ := h
  exact ho'

theorem mem_filterMap_optionTable {F : String × OptionSpec → Option OptionMatch}
    (hF : ∀ so m, F so = some m → m.option = some so.2) {m : OptionMatch} {o : OptionSpec}
    (hm : m ∈ g.optionTable.filterMap F) (ho : m.option = some o) : o ∈ g.options := by
  obtain ⟨⟨s, o'⟩, hmem, hsome⟩ := List.mem_filterMap.mp hm
  have hopt := hF _ _ hsome
  rw [ho] at hopt
  cases hopt
  exact mem_optionTable hmem

theorem optionReadings_mem {arg : String} {m : OptionMatch} {o : OptionSpec}
    (hm : m ∈ g.optionReadings arg) (ho : m.option = some o) : o ∈ g.options := by
  unfold optionReadings at hm
  split at hm
  · split at hm
    · split at hm
      · generalize splitAtEquals arg = t at hm
        obtain ⟨pre, hasSep, explicit⟩ := t
        refine mem_filterMap_optionTable (fun so m' h => ?_) hm ho
        obtain ⟨s, o'⟩ := so
        dsimp only at h
        split at h
        · cases h
          rfl
        · cases h
      · simp at hm
    · refine mem_filterMap_optionTable (fun so m' h => ?_) hm ho
      obtain ⟨s, o'⟩ := so
      dsimp only at h
      split at h
      · cases h
        rfl
      · split at h
        · cases h
          rfl
        · cases h
  · simp at hm

theorem optionFor?_mem {s : String} {o : OptionSpec} (h : g.optionFor? s = some o) :
    o ∈ g.options := by
  obtain ⟨⟨s', o'⟩, hfind, rfl⟩ := Option.map_eq_some_iff.mp h
  exact mem_optionTable (List.mem_of_find?_eq_some hfind)

/-- What reading a string can do: answer at once, with a reading that names, if any, an option
of the grammar, or refuse a string that has several readings. Reading never touches the scan
state. -/
theorem readOption_cases (arg : String) :
    (∃ r, g.ReadsOwn r ∧ g.readOption columns arg = pure r) ∨
      ∃ ms message, 2 ≤ ms.length ∧ g.optionReadings arg = ms ∧
        g.readOption columns arg = g.fail columns message := by
  have hnone : g.ReadsOwn none := fun _ h => by cases h
  have hsome : ∀ {o s e}, o ∈ g.options → g.ReadsOwn (some ⟨some o, s, e⟩) := by
    intro o s e ho m hm o' ho'
    cases hm
    cases ho'
    exact ho
  generalize hx : g.readOption columns arg = x
  unfold readOption at hx
  split at hx
  · exact .inl ⟨_, hnone, hx.symm⟩
  · split at hx
    · exact .inl ⟨_, hnone, hx.symm⟩
    · split at hx
      · next o hfor => exact .inl ⟨_, hsome (optionFor?_mem hfor), hx.symm⟩
      · split at hx
        · exact .inl ⟨_, hnone, hx.symm⟩
        · generalize splitAtEquals arg = t at hx
          obtain ⟨pre, hasSep, explicit⟩ := t
          dsimp only at hx
          split at hx
          · next o hfor =>
            refine .inl ⟨_, hsome ?_, hx.symm⟩
            split at hfor
            · exact optionFor?_mem hfor
            · cases hfor
          · split at hx
            · next m hreadings =>
              refine .inl ⟨_, fun m' hm o' ho' => ?_, hx.symm⟩
              cases hm
              exact optionReadings_mem (hreadings ▸ List.mem_singleton_self m) ho'
            · split at hx
              · exact .inl ⟨_, hnone, hx.symm⟩
              · -- an unknown option names no option
                refine .inl ⟨_, fun m hm o ho => ?_, hx.symm⟩
                cases hm
                cases ho
            · next hone hempty =>
              -- neither one reading nor none: at least two
              refine .inr ⟨_, _, ?_, rfl, hx.symm⟩
              match hms : g.optionReadings arg, hone, hempty with
              | [], _, hempty => exact absurd rfl hempty
              | [m], hone, _ => exact absurd rfl (hone m)
              | _ :: _ :: _, _, _ => simp

theorem readOption_ensures (arg : String) :
    (g.readOption columns arg).Ensures g.ReadsOwn := by
  rcases readOption_cases arg with ⟨r, hr, heq⟩ | ⟨-, message, -, -, heq⟩
  · rw [heq]
    exact ensures_pure hr
  · rw [heq]
    exact ensures_fail _ _ _

theorem kinds_ensures : ∀ argv, (g.kinds columns argv).Ensures g.OwnsKinds
  | [] => ensures_pure (by simp [OwnsKinds])
  | a :: rest => by
    unfold kinds
    split
    · next h => cases h
    · -- after the separator every string is a positional
      exact ensures_pure (by simp [OwnsKinds])
    · next a' rest' _ h =>
      cases h
      refine ensures_bind (readOption_ensures a) fun r hr => ?_
      refine ensures_bind (kinds_ensures rest) fun ks hks => ensures_pure ?_
      intro m hm o ho
      rcases List.mem_cons.mp hm with hm | hm
      · cases r with
        | none => cases hm
        | some m' =>
          cases hm
          exact hr _ rfl o ho
      · exact hks m hm o ho

/-- A run of the cluster loop either collects further readings, each of the option it started
from or of one the grammar declares, or fails with a usage message. -/
theorem readCluster_loop_cases (kinds : List Kind) (args : Array String) (start : Nat) :
    ∀ (fuel : Nat) (o : OptionSpec) (optString : String) (explicit : Option String)
      (acc : List (OptionSpec × List String)),
    (∃ more n, (∀ a ∈ more, a.1 = o ∨ a.1 ∈ g.options) ∧
        readCluster.loop g columns kinds args start fuel o optString explicit acc =
          pure (acc ++ more, n)) ∨
      ∃ message, readCluster.loop g columns kinds args start fuel o optString explicit acc =
        g.fail columns message
  | 0, _, _, _, acc => .inl ⟨[], start + 1, by simp, by rw [List.append_nil]; rfl⟩
  | fuel + 1, o, optString, explicit, acc => by
    have hone : ∀ vs : List String, ∀ a ∈ [(o, vs)], a.1 = o ∨ a.1 ∈ g.options := by simp
    generalize hx : readCluster.loop g columns kinds args start (fuel + 1) o optString explicit acc = x
    unfold readCluster.loop at hx
    dsimp only at hx
    split at hx
    · split at hx
      · split at hx
        · next o' hfor =>
          -- a flag glued to the next flag of the cluster: the loop goes on from that one
          subst hx
          rcases readCluster_loop_cases kinds args start fuel o' _ _ (acc ++ [(o, [])]) with
            ⟨more, n, hmore, heq⟩ | ⟨message, heq⟩
          · refine .inl ⟨(o, []) :: more, n, ?_, by rw [heq, List.append_assoc, List.singleton_append]⟩
            rintro a (_ | ⟨_, ha⟩)
            · exact .inl rfl
            · exact .inr ((hmore a ha).elim (fun h => h ▸ optionFor?_mem hfor) id)
          · exact .inr ⟨message, heq⟩
        · exact .inr ⟨_, hx.symm⟩
      · split at hx
        · exact .inl ⟨_, _, hone _, hx.symm⟩
        · exact .inr ⟨_, hx.symm⟩
    · split at hx
      · exact .inl ⟨_, _, hone _, hx.symm⟩
      · split at hx
        · exact .inl ⟨_, _, hone _, hx.symm⟩
        · exact .inr ⟨_, hx.symm⟩

theorem readCluster_loop_ensures (kinds : List Kind) (args : Array String) (start : Nat)
    (fuel : Nat) (o : OptionSpec) (optString : String) (explicit : Option String)
    (acc : List (OptionSpec × List String)) (ho : o ∈ g.options) (hacc : ∀ a ∈ acc, a.1 ∈ g.options) :
    (readCluster.loop g columns kinds args start fuel o optString explicit acc).Ensures
      fun r => ∀ a ∈ r.1, a.1 ∈ g.options := by
  rcases readCluster_loop_cases kinds args start fuel o optString explicit acc with
    ⟨more, n, hmore, heq⟩ | ⟨message, heq⟩ <;> rw [heq]
  · refine ensures_pure fun a ha => ?_
    rcases List.mem_append.mp ha with ha | ha
    · exact hacc a ha
    · exact (hmore a ha).elim (fun h => h ▸ ho) id
  · exact ensures_fail _ _ _

/-! ## One step of the scan -/

theorem ensures_fail_bind {α β : Type} {P : β → Prop} (g : Grammar) (columns : Int) (message : String)
    (f : α → ScanM β) : (g.fail columns message >>= f).Ensures P :=
  ensures_bind (Q := fun _ => False) (ensures_fail _ _ _) fun _ h => h.elim
theorem dest_mem_dests {o : OptionSpec} {d : String} (ho : o ∈ g.options)
    (hd : o.dest? = some d) : d ∈ g.dests :=
  List.mem_append_left _ (List.mem_filterMap.mpr ⟨o, ho, hd⟩)

theorem positional_dest_mem_dests {p : PositionalSpec} (hp : p ∈ g.positionals) :
    p.dest ∈ g.dests :=
  List.mem_append_right _ (List.mem_map_of_mem hp)

theorem printHelp_ensures {α : Type} {P : α → Prop} : (g.printHelp columns : ScanM α).Ensures P := by
  unfold printHelp
  exact ensures_bind ensures_get fun _ _ => ensures_throw _

variable {key : String}

theorem takeOption_keeps {o : OptionSpec} (ho : o ∈ g.options) (hkey : key ∉ g.dests)
    (args : List String) (ns : Namespace) :
    (g.takeOption columns o args ns).Ensures fun ns' =>
      Value.lookup ns' key = Value.lookup ns key := by
  unfold takeOption
  split
  · exact printHelp_ensures
  · split
    · exact ensures_throw _
    · exact ensures_throw _
  · next d heff =>
    have hd : d ≠ key := fun h => hkey (h ▸ dest_mem_dests ho (by simp [OptionSpec.dest?, heff]))
    exact ensures_pure (Namespace.lookup_set_ne _ _ hd)
  · next d cs heff =>
    have hd : d ≠ key := fun h => hkey (h ▸ dest_mem_dests ho (by simp [OptionSpec.dest?, heff]))
    dsimp only
    split
    · exact ensures_fail_bind _ _ _ _
    · exact ensures_bind (ensures_modify _) fun _ _ => ensures_pure (Namespace.lookup_set_ne _ _ hd)

theorem takePositional_keeps {sub : Subcommand} (hsub : sub.Avoids key) {p : PositionalSpec}
    (hp : p ∈ g.positionals) (hkey : key ∉ g.dests) (args : List String) (st : Scan) :
    (g.takePositional columns sub p args st).Ensures fun st' =>
      Value.lookup st'.ns key = Value.lookup st.ns key ∧ st'.positionals = st.positionals := by
  have hd : p.dest ≠ key := fun h => hkey (h ▸ positional_dest_mem_dests hp)
  unfold takePositional
  split
  · dsimp only
    split
    · exact ensures_fail_bind _ _ _ _
    · refine ensures_bind (hsub _ _) fun r hr => ?_
      obtain ⟨subNs, subExtras⟩ := r
      -- the command's own attributes never hold the key
      refine ensures_pure ⟨?_, rfl⟩
      simp [Namespace.lookup_merge, hr, Namespace.lookup_set_ne _ _ hd]
  · exact ensures_pure ⟨Namespace.lookup_set_ne _ _ hd, rfl⟩
  · exact ensures_pure ⟨Namespace.lookup_set_ne _ _ hd, rfl⟩
  · exact ensures_pure ⟨Namespace.lookup_set_ne _ _ hd, rfl⟩

/-! ## The scan loop -/

theorem consumePositionals_keeps {sub : Subcommand} (hsub : sub.Avoids key)
    (hkey : key ∉ g.dests) {v : Option Value} (args : Array String) (pattern : List Char)
    (start : Nat) {st : Scan} (hst : st.Keeps g key v) :
    (g.consumePositionals columns sub args pattern start st).Ensures fun r => r.2.Keeps g key v := by
  unfold consumePositionals
  dsimp only
  refine ensures_bind (Q := fun acc => Value.lookup acc.2.ns key = v) ?_ fun acc hacc => ?_
  · refine ensures_foldlM _ hst.lookup fun acc hacc pn hpn => ?_
    have hp : pn.1 ∈ g.positionals := hst.positionals _ (List.of_mem_zip hpn).1
    exact ensures_bind (takePositional_keeps hsub hp hkey _ _) fun st' hst' =>
      ensures_pure (hst'.1.trans hacc)
  · obtain ⟨stop, st'⟩ := acc
    exact ensures_pure ⟨hacc, fun p hp => hst.positionals p (List.mem_of_mem_drop hp)⟩

theorem consumeOptional_keeps {kinds : List Kind} (hkinds : g.OwnsKinds kinds)
    (hkey : key ∉ g.dests) {v : Option Value} (args : Array String) (start : Nat) {st : Scan}
    (hst : st.Keeps g key v) :
    (g.consumeOptional columns kinds args start st).Ensures fun r => r.2.Keeps g key v := by
  unfold consumeOptional
  split
  · next m rest hdrop =>
    split
    · exact ensures_pure ⟨hst.lookup, hst.positionals⟩
    · next o ho =>
      have hmem : o ∈ g.options :=
        hkinds m (List.mem_of_mem_drop (hdrop ▸ List.mem_cons_self)) o ho
      refine ensures_bind (readCluster_loop_ensures kinds args start _ o _ _ [] hmem (by simp))
        fun r hr => ?_
      obtain ⟨actions, stop⟩ := r
      refine ensures_bind (Q := fun ns => Value.lookup ns key = v) ?_ fun ns hns =>
        ensures_pure ⟨hns, hst.positionals⟩
      refine ensures_foldlM _ hst.lookup fun ns hns a ha => ?_
      exact (takeOption_keeps (hr a ha) hkey _ _).mono fun ns' h => h.trans hns
  · exact ensures_pure hst

theorem positionalsBefore_keeps {sub : Subcommand} (hsub : sub.Avoids key)
    (hkey : key ∉ g.dests) {v : Option Value} (args : Array String) (pattern : List Char)
    (start next : Nat) {st : Scan} (hst : st.Keeps g key v) :
    (g.positionalsBefore columns sub args pattern start next st).Ensures
      fun r => r.2.1.Keeps g key v := by
  unfold positionalsBefore
  split
  · refine ensures_bind (consumePositionals_keeps hsub hkey args pattern start hst) fun r hr => ?_
    obtain ⟨stop, st'⟩ := r
    exact ensures_pure hr
  · exact ensures_pure hst

/-- The scan loop keeps the invariant: by induction on the fuel, each round being positionals
(`positionalsBefore_keeps`), then possibly extra strings and an option. -/
theorem scanLoop_keeps {sub : Subcommand} (hsub : sub.Avoids key) {kinds : List Kind}
    (hkinds : g.OwnsKinds kinds) (hkey : key ∉ g.dests) {v : Option Value} (args : Array String)
    (pattern : List Char) :
    ∀ (fuel start : Nat) (st : Scan), st.Keeps g key v →
    (g.scanLoop columns sub kinds args pattern fuel start st).Ensures fun r => r.2.Keeps g key v
  | 0, _, _, hst => ensures_pure hst
  | fuel + 1, start, st, hst => by
    unfold scanLoop
    split
    · exact ensures_pure hst
    · next next _ _ =>
      refine ensures_bind (positionalsBefore_keeps hsub hkey args pattern start next hst)
        fun r hr => ?_
      obtain ⟨start', st', advanced⟩ := r
      dsimp only
      split
      · exact scanLoop_keeps hsub hkinds hkey args pattern fuel _ _ hr
      · -- extra strings before the option change neither the namespace nor the positionals
        have hextra : (if start' < next then
            { st' with extras := st'.extras ++ ((args.toList.drop start').take (next - start')) }
            else st').Keeps g key v := by
          split
          · exact ⟨hr.lookup, hr.positionals⟩
          · exact hr
        refine ensures_bind (consumeOptional_keeps hkinds hkey args next hextra) fun r' hr' => ?_
        exact scanLoop_keeps hsub hkinds hkey args pattern fuel _ _ hr'

/-- A key that no argument of the grammar stores into, and that the subcommand never hands back,
reads after any successful scan what the grammar's initial namespace reads. -/
theorem parseKnown_keeps {sub : Subcommand} (hsub : sub.Avoids key) (hkey : key ∉ g.dests)
    (argv : List String) :
    (g.parseKnown columns sub argv).Ensures fun r =>
      Value.lookup r.1 key = Value.lookup g.initialNamespace key := by
  unfold parseKnown
  refine ensures_bind (kinds_ensures argv) fun kinds hkinds => ?_
  have hinit : Scan.Keeps g key (Value.lookup g.initialNamespace key)
      { ns := g.initialNamespace, positionals := g.positionals } := ⟨rfl, fun _ hp => hp⟩
  refine ensures_bind (scanLoop_keeps hsub hkinds hkey _ _ _ _ _ hinit) fun r hr => ?_
  exact ensures_bind (consumePositionals_keeps hsub hkey _ _ _ hr) fun r' hr' =>
    ensures_pure hr'.lookup

end Grammar

end CommandLine.Matching
