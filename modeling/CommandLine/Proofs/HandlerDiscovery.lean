import CommandLine.Plugin.Registry
import CommandLine.Proofs.Outcome

/-!
# Discovery keeps the first working handler

Discovery takes the entry points by name, entry points of one name in their own order
(`byName_filter_name`), and loads each in turn. What the loads come to is a trace
(`loadTrace`): each entry point with its outcome, a handler, an object that cannot be called,
or an error; unless a load raises something that is not an error, which stops everything.

Recording an outcome adds an entry under a name only when the name has none yet, for the
handlers and for the failures alike (`record_handlers`, `record_failures`). So after a whole
trace each name maps to the first handler its entry points loaded, and to the reason of the
first one that failed (`lookup_recordAll`); a name with a handler then loses its failure.

A discovery that finishes replaces the registry by its two maps, whatever the registry held;
one that a fault stops leaves it as it was (`discovery_keeps_first_handlers`). The reference
catalog built from the registry gives each command its handler when that handler is true as
a condition, and otherwise the stand-in that reports why it has none: a handler that is false
as a condition is taken for no handler at all.

Discovery is read off the trace of its loads (`discoverWith_of_trace`,
`discoverWith_of_fault`), and discovery in the world of objects is discovery with the world's
loader, every load of which finishes (`discover_keeps_first`).
-/

namespace CommandLine.Plugin

open Objects (Obj World)

/-! ## Adding an entry under a new key -/

section SetDefault

variable {β : Type}

/-- The entries with one more under a key, unless the key has one already. -/
def setDefault (l : List (String × β)) (k : String) (v : β) : List (String × β) :=
  if l.any (·.1 == k) then l else l ++ [(k, v)]

theorem lookup_setDefault (l : List (String × β)) (k : String) (v : β) (n : String) :
    (setDefault l k v).lookup n = (l.lookup n).or (if k = n then some v else none) := by
  unfold setDefault
  split
  · next hany =>
    -- the key has an entry already, which wins over the new one
    by_cases hk : k = n
    · subst hk
      obtain ⟨p, hp, hpk⟩ := List.any_eq_true.mp hany
      have hsome : (l.lookup k).isSome :=
        List.lookup_isSome_iff.mpr ⟨p, hp, beq_iff_eq.mpr (beq_iff_eq.mp hpk).symm⟩
      obtain ⟨w, hw⟩ := Option.isSome_iff_exists.mp hsome
      simp [hw]
    · simp [hk]
  · by_cases hk : k = n
    · simp [List.lookup_append, hk]
    · have hne : (n == k) = false := by simpa [beq_iff_eq] using Ne.symm hk
      simp [List.lookup_append, List.lookup_cons, hne, hk]

theorem nodup_setDefault {l : List (String × β)} (hl : (l.map (·.1)).Nodup) (k : String) (v : β) :
    ((setDefault l k v).map (·.1)).Nodup := by
  unfold setDefault
  split
  · exact hl
  · next hnone =>
    rw [List.map_append, List.nodup_append]
    refine ⟨hl, List.nodup_cons.mpr ⟨List.not_mem_nil, List.nodup_nil⟩, fun a ha b hb => ?_⟩
    rw [List.map_singleton, List.mem_singleton] at hb
    subst hb
    obtain ⟨p, hp, rfl⟩ := List.mem_map.mp ha
    rintro rfl
    exact hnone (List.any_eq_true.mpr ⟨p, hp, beq_self_eq_true _⟩)

end SetDefault

/-! ## What one outcome records -/

namespace Discovery

def Outcome.handler? : Outcome → Option Obj
  | .handler o => some o
  | _ => none

/-- Why the load of an entry point with the given value gave no handler: the class and message
of its error, or that its object cannot be called. -/
def Outcome.reason? (value : String) : Outcome → Option String
  | .failed className message => some (className ++ ": " ++ message)
  | .notCallable => some (value ++ " is not callable")
  | .handler _ => none

theorem Outcome.reason?_ne_empty {value reason : String} {o : Outcome}
    (h : o.reason? value = some reason) : reason ≠ "" := by
  cases o with
  | handler => cases h
  | notCallable =>
    cases h
    intro hempty
    have := congrArg String.length hempty
    simp at this
  | failed className message =>
    cases h
    intro hempty
    have := congrArg String.length hempty
    simp at this

theorem record_handlers (d : Discovery) (ep : EntryPoint) (o : Outcome) :
    (d.record ep o).handlers = o.handler?.elim d.handlers (setDefault d.handlers ep.name) := by
  cases o with
  | handler h =>
    by_cases hany : d.handlers.any (·.1 == ep.name) <;>
      simp [record, note, Outcome.handler?, setDefault, hany]
  | notCallable | failed =>
    by_cases hany : d.failures.any (·.1 == ep.name) <;>
      simp [record, note, fail, Outcome.handler?, hany]

theorem record_failures (d : Discovery) (ep : EntryPoint) (o : Outcome) :
    (d.record ep o).failures = (o.reason? ep.value).elim d.failures (setDefault d.failures ep.name) := by
  cases o with
  | handler h =>
    by_cases hany : d.handlers.any (·.1 == ep.name) <;> simp [record, note, Outcome.reason?, hany]
  | notCallable | failed =>
    by_cases hany : d.failures.any (·.1 == ep.name) <;>
      simp [record, note, fail, Outcome.reason?, setDefault, hany]

theorem record_loaded (d : Discovery) (ep : EntryPoint) (o : Outcome) (loaded : List String) :
    ({ d with loaded } : Discovery).record ep o = { d.record ep o with loaded } := by
  cases o with
  | handler h =>
    by_cases hany : d.handlers.any (·.1 == ep.name) <;> simp [record, note, hany]
  | notCallable | failed =>
    by_cases hany : d.failures.any (·.1 == ep.name) <;> simp [record, note, fail, hany]

theorem lookup_elim_setDefault {β : Type} (l : List (String × β)) (k : String) (v? : Option β)
    (n : String) :
    (v?.elim l (setDefault l k)).lookup n = (l.lookup n).or (if k = n then v? else none) := by
  cases v? with
  | none => simp
  | some v => exact lookup_setDefault l k v n

/-! ## What a trace of outcomes records -/

def recordAll (d : Discovery) (tr : List (EntryPoint × Outcome)) : Discovery :=
  tr.foldl (fun d p => d.record p.1 p.2) d

/-- Among the entry points of a trace with the given name, in order, what the first one that
has something to give gives. -/
def firstOf {β : Type} (g : EntryPoint × Outcome → Option β) (tr : List (EntryPoint × Outcome))
    (n : String) : Option β :=
  (tr.filter (·.1.name == n)).findSome? g

theorem firstOf_cons {β : Type} (g : EntryPoint × Outcome → Option β) (p : EntryPoint × Outcome)
    (tr : List (EntryPoint × Outcome)) (n : String) :
    firstOf g (p :: tr) n = if p.1.name = n then (g p).or (firstOf g tr n) else firstOf g tr n := by
  unfold firstOf
  by_cases hn : p.1.name = n
  · cases hg : g p <;> simp [hn, hg]
  · simp [hn]

section Field

variable {β : Type} (field : Discovery → List (String × β)) (g : EntryPoint × Outcome → Option β)

/-- A field that each outcome adds to under its name only when the name has no entry yet
holds, after a trace, the first entry of each name. -/
theorem lookup_recordAll
    (hstep : ∀ d ep o n, (field (d.record ep o)).lookup n =
      ((field d).lookup n).or (if ep.name = n then g (ep, o) else none)) :
    ∀ (tr : List (EntryPoint × Outcome)) (d : Discovery) (n : String),
      (field (recordAll d tr)).lookup n = ((field d).lookup n).or (firstOf g tr n)
  | [], d, n => by simp [recordAll, firstOf]
  | (ep, o) :: tr, d, n => by
    have ih := lookup_recordAll hstep tr (d.record ep o) n
    rw [recordAll, List.foldl_cons] at *
    rw [ih, hstep, Option.or_assoc, firstOf_cons]
    by_cases hn : ep.name = n <;> simp [hn]

theorem nodup_recordAll
    (hstep : ∀ d ep o, ((field d).map (·.1)).Nodup → ((field (d.record ep o)).map (·.1)).Nodup) :
    ∀ (tr : List (EntryPoint × Outcome)) (d : Discovery), ((field d).map (·.1)).Nodup →
      ((field (recordAll d tr)).map (·.1)).Nodup
  | [], _, hd => hd
  | (ep, o) :: tr, d, hd => nodup_recordAll hstep tr (d.record ep o) (hstep d ep o hd)

end Field

theorem recordAll_loaded (tr : List (EntryPoint × Outcome)) (d : Discovery) (loaded : List String) :
    recordAll { d with loaded } tr = { recordAll d tr with loaded } := by
  induction tr generalizing d with
  | nil => rfl
  | cons p tr ih =>
    simp only [recordAll, List.foldl_cons] at ih ⊢
    rw [record_loaded, ih]

theorem lookup_handlers_recordAll (tr : List (EntryPoint × Outcome)) (n : String) :
    (recordAll {} tr).handlers.lookup n = firstOf (·.2.handler?) tr n := by
  rw [lookup_recordAll Discovery.handlers (·.2.handler?)
    (fun d ep o n => by rw [record_handlers, lookup_elim_setDefault])]
  rfl

/-- The failure of each name after a trace: the reason of the first of its entry points that
gave no handler. -/
theorem lookup_failures_recordAll (tr : List (EntryPoint × Outcome)) (n : String) :
    (recordAll {} tr).failures.lookup n = firstOf (fun p => p.2.reason? p.1.value) tr n := by
  rw [lookup_recordAll Discovery.failures (fun p => p.2.reason? p.1.value)
    (fun d ep o n => by rw [record_failures, lookup_elim_setDefault])]
  rfl

theorem nodup_handlers_recordAll (tr : List (EntryPoint × Outcome)) :
    ((recordAll {} tr).handlers.map (·.1)).Nodup :=
  nodup_recordAll Discovery.handlers (fun d ep o hd => by
    rw [record_handlers]
    cases o.handler? with
    | none => exact hd
    | some h => exact nodup_setDefault hd _ h) tr {} List.nodup_nil

theorem nodup_failures_recordAll (tr : List (EntryPoint × Outcome)) :
    ((recordAll {} tr).failures.map (·.1)).Nodup :=
  nodup_recordAll Discovery.failures (fun d ep o hd => by
    rw [record_failures]
    cases o.reason? ep.value with
    | none => exact hd
    | some r => exact nodup_setDefault hd _ r) tr {} List.nodup_nil

end Discovery

open Discovery

/-! ## The trace of the loads -/

/-- Loads entry points in turn from the modules loaded so far: the modules loaded at the end
and what each load came to, or the first fault a load raised. -/
def loadTrace (ld : Loader) (callable : Obj → Bool) :
    List String → List EntryPoint → Except Fault (List String × List (EntryPoint × Outcome))
  | loaded, [] => .ok (loaded, [])
  | loaded, ep :: eps => do
    let (loaded, r) ← ld loaded ep
    let (last, tr) ← loadTrace ld callable loaded eps
    pure (last, (ep, Outcome.of callable r) :: tr)

section Trace

variable (ld : Loader) (callable : Obj → Bool)

/-- A trace lists the entry points it was loaded from, in order. -/
theorem loadTrace_entries :
    ∀ {loaded : List String} {eps : List EntryPoint} {last : List String}
      {tr : List (EntryPoint × Outcome)},
      loadTrace ld callable loaded eps = .ok (last, tr) → tr.map (·.1) = eps
  | _, [], _, _, h => by cases h; rfl
  | loaded, ep :: eps, last, tr, h => by
    simp only [loadTrace] at h
    cases hld : ld loaded ep with
    | error f => simp [hld, bind, Except.bind] at h
    | ok lr =>
      obtain ⟨loaded', r⟩ := lr
      cases htr : loadTrace ld callable loaded' eps with
      | error f => simp [hld, htr, bind, Except.bind] at h
      | ok lt =>
        obtain ⟨last', tr'⟩ := lt
        simp only [hld, htr, bind, Except.bind, pure, Except.pure, Except.ok.injEq,
          Prod.mk.injEq] at h
        obtain ⟨-, rfl⟩ := h
        rw [List.map_cons, loadTrace_entries htr]

/-- Folding the loads into a discovery records their trace. -/
theorem foldlM_addWith :
    ∀ (eps : List EntryPoint) (d : Discovery),
      eps.foldlM (addWith ld callable) d =
        (loadTrace ld callable d.loaded eps).map fun (last, tr) => { recordAll d tr with loaded := last }
  | [], d => rfl
  | ep :: eps, d => by
    simp only [List.foldlM_cons, addWith, loadTrace]
    cases hld : ld d.loaded ep with
    | error f => rfl
    | ok lr =>
      obtain ⟨loaded, r⟩ := lr
      -- the rest of the loads start from the modules this one loaded
      have ih := foldlM_addWith eps { d.record ep (Outcome.of callable r) with loaded }
      simp only [bind, Except.bind, pure, Except.pure] at ih ⊢
      rw [ih]
      cases loadTrace ld callable loaded eps with
      | error f => rfl
      | ok lt =>
        simp only [Except.map, recordAll_loaded]
        rfl

/-- Drops the failures of names that have a handler. -/
def finish (d : Discovery) : Discovery :=
  { d with failures := d.failures.filter fun (name, _) => !d.handlers.any (·.1 == name) }

theorem discoverWith_eq (start : List String) (eps : List EntryPoint) :
    discoverWith ld callable start eps =
      (loadTrace ld callable start (byName eps)).map fun (last, tr) =>
        finish { recordAll { loaded := start } tr with loaded := last } := by
  unfold discoverWith
  rw [foldlM_addWith]
  cases loadTrace ld callable start (byName eps) <;> rfl

end Trace

/-! ## Names in their own order -/

/-- Taking entry points by name keeps the entry points of one name in their order. -/
theorem byName_filter_name (eps : List EntryPoint) (n : String) :
    (byName eps).filter (·.name == n) = eps.filter (·.name == n) := by
  have htrans : ∀ a b c : EntryPoint, decide (a.name ≤ b.name) = true →
      decide (b.name ≤ c.name) = true → decide (a.name ≤ c.name) = true := by
    simp only [decide_eq_true_eq]
    exact fun _ _ _ => String.le_trans
  have htotal : ∀ a b : EntryPoint, (decide (a.name ≤ b.name) || decide (b.name ≤ a.name)) = true := by
    intro a b
    simpa using String.le_total a.name b.name
  -- the entry points of one name are in order whatever their order, so the stable sort keeps it
  have hsorted : (eps.filter (·.name == n)).Pairwise fun a b => decide (a.name ≤ b.name) = true := by
    refine List.Pairwise.imp_of_mem (R := fun _ _ => True) ?_ (List.pairwise_of_forall fun _ _ => trivial)
    intro a b ha hb _
    simp only [List.mem_filter, beq_iff_eq] at ha hb
    rw [ha.2, hb.2]
    simp
  have hsub : (eps.filter (·.name == n)).Sublist ((byName eps).filter (·.name == n)) := by
    have := (List.sublist_mergeSort htrans htotal hsorted (List.filter_sublist)).filter (·.name == n)
    rwa [List.filter_filter, List.filter_congr (fun _ _ => Bool.and_self _)] at this
  have hlen : (eps.filter (·.name == n)).length = ((byName eps).filter (·.name == n)).length :=
    (((List.mergeSort_perm eps _).filter _).length_eq).symm
  exact (hsub.eq_of_length hlen).symm

/-! ## What discovery keeps -/

/-- What a discovery of entry points `eps` whose loads came to `tr` keeps: the entry points of
each name in their order, each name's first handler, and for each name without one the reason
its first failing entry point gave; each name once in each map. -/
structure KeepsFirst (eps : List EntryPoint) (tr : List (EntryPoint × Outcome))
    (H : List (String × Obj)) (F : List (String × String)) : Prop where
  order : ∀ n, (tr.filter (·.1.name == n)).map (·.1) = eps.filter (·.name == n)
  handlers : ∀ n, H.lookup n = firstOf (·.2.handler?) tr n
  handlers_once : (H.map (·.1)).Nodup
  failures : ∀ n, F.lookup n =
    if (H.lookup n).isSome then none else firstOf (fun p => p.2.reason? p.1.value) tr n
  failures_once : (F.map (·.1)).Nodup

/-- Keeping the entries whose key passes a test keeps the lookups of the keys that pass. -/
theorem lookup_filter_key {β : Type} (l : List (String × β)) {f : String × β → Bool}
    {q : String → Bool} (hf : ∀ p, f p = q p.1) (n : String) :
    (l.filter f).lookup n = if q n then l.lookup n else none := by
  induction l with
  | nil => simp
  | cons p l ih =>
    obtain ⟨k, v⟩ := p
    by_cases hk : n = k
    · subst hk
      by_cases hq : q n <;> simp [hf, hq, ih]
    · have hne : (n == k) = false := by simpa [beq_iff_eq] using hk
      by_cases hq : q k <;> simp [List.lookup_cons, hf, hq, hne, ih]

theorem any_key_eq_isSome {β : Type} (l : List (String × β)) (n : String) :
    l.any (·.1 == n) = (l.lookup n).isSome := by
  rw [Bool.eq_iff_iff, List.any_eq_true, List.lookup_isSome_iff]
  exact ⟨fun ⟨p, hp, h⟩ => ⟨p, hp, beq_iff_eq.mpr (beq_iff_eq.mp h).symm⟩,
    fun ⟨p, hp, h⟩ => ⟨p, hp, beq_iff_eq.mpr (beq_iff_eq.mp h).symm⟩⟩

theorem keepsFirst_finish {eps : List EntryPoint} {tr : List (EntryPoint × Outcome)}
    (horder : tr.map (·.1) = byName eps) (start last : List String) :
    let d := finish { recordAll { loaded := start } tr with loaded := last }
    KeepsFirst eps tr d.handlers d.failures := by
  intro d
  have hrec : recordAll { loaded := start } tr = { recordAll {} tr with loaded := start } :=
    recordAll_loaded tr {} start
  have hhandlers : d.handlers = (recordAll {} tr).handlers := by
    simp only [d, finish, hrec]
  have hfailures : d.failures = (recordAll {} tr).failures.filter
      fun p => !(recordAll {} tr).handlers.any (·.1 == p.1) := by
    simp only [d, finish, hrec]
  refine ⟨fun n => ?_, fun n => ?_, ?_, fun n => ?_, ?_⟩
  · rw [← byName_filter_name, ← horder, List.filter_map]
    rfl
  · rw [hhandlers, lookup_handlers_recordAll]
  · rw [hhandlers]
    exact nodup_handlers_recordAll tr
  · rw [hfailures, lookup_filter_key _ (q := fun k => !(recordAll {} tr).handlers.any (·.1 == k))
      (fun _ => rfl), any_key_eq_isSome, hhandlers, lookup_failures_recordAll]
    cases (List.lookup n (recordAll {} tr).handlers).isSome <;> rfl
  · rw [hfailures]
    exact (nodup_failures_recordAll tr).sublist (List.filter_sublist.map _)

section Discover

variable {ld : Loader} {callable : Obj → Bool} {start : List String} {eps : List EntryPoint}

/-- A discovery whose loads all finish keeps the first handler and the first failure of each
name. -/
theorem discoverWith_of_trace {last : List String} {tr : List (EntryPoint × Outcome)}
    (h : loadTrace ld callable start (byName eps) = .ok (last, tr)) :
    ∃ d, discoverWith ld callable start eps = .ok d ∧ KeepsFirst eps tr d.handlers d.failures :=
  ⟨_, by rw [discoverWith_eq, h]; rfl, keepsFirst_finish (loadTrace_entries ld callable h) start last⟩

theorem discoverWith_of_fault {f : Fault} (h : loadTrace ld callable start (byName eps) = .error f) :
    discoverWith ld callable start eps = .error f := by
  rw [discoverWith_eq, h]
  rfl

end Discover

/-! ## The catalog of the registry -/

/-- The handler the reference catalog gives a command from a registry: the command's handler
when it is true as a condition, or else the stand-in that reports the failure recorded for
the command, if any. -/
def Registry.handlerFor (asHandler : Obj → Handler) (reg : Registry) (n : String) : Handler :=
  referenceHandler (fun n => (reg.handlers.lookup n).map asHandler)
    (fun n => (reg.failures.lookup n).map .str) n

def Registry.catalog (asHandler : Obj → Handler) (reg : Registry) : Catalog :=
  referenceCatalog (fun n => (reg.handlers.lookup n).map asHandler)
    (fun n => (reg.failures.lookup n).map .str)

theorem Registry.mem_catalog (asHandler : Obj → Handler) (reg : Registry) {r : ReferenceCommand}
    (hr : r ∈ referenceCommands) :
    .descriptor (r.descriptor (reg.handlerFor asHandler r.name)) ∈ (reg.catalog asHandler).entries := by
  obtain ⟨ds, hentries, hperm⟩ := referenceCatalog_sorted (fun n => (reg.handlers.lookup n).map asHandler)
    (fun n => (reg.failures.lookup n).map .str)
  rw [catalog, hentries]
  refine List.mem_map_of_mem (hperm.mem_iff.mpr ?_)
  exact List.mem_append_left _
    (List.mem_map_of_mem (f := fun r : ReferenceCommand => r.descriptor (reg.handlerFor asHandler r.name)) hr)

/-- The stand-in of a command names the failure recorded for it, when there is one, and
suggests an install when there is not. -/
theorem missingError_of_failure (n : String) {reason? : Option String}
    (hreason : ∀ reason, reason? = some reason → reason ≠ "") :
    (∀ reason, reason? = some reason →
      (Handler.missingError n defaultProgram (reason?.map .str)).context =
        [("command", .str n), ("error", .str reason)]) ∧
    (reason? = none → (Handler.missingError n defaultProgram (reason?.map .str)).suggestions =
      [.str ("Install a package providing the '" ++ n ++ "' entry point in the '" ++
        entryPointGroup ++ "' group")]) := by
  refine ⟨fun reason hsome => ?_, fun hnone => ?_⟩
  · subst hsome
    have htruthy : (Value.str reason).truthy = true := by
      simpa [Value.truthy] using hreason reason rfl
    simp [Handler.missingError, Option.filter, htruthy]
  · subst hnone
    rfl

/-- A reason recorded by discovery is never empty. -/
theorem KeepsFirst.reason_ne_empty {eps : List EntryPoint} {tr : List (EntryPoint × Outcome)}
    {H : List (String × Obj)} {F : List (String × String)} (hk : KeepsFirst eps tr H F)
    {n reason : String} (h : F.lookup n = some reason) : reason ≠ "" := by
  rw [hk.failures n] at h
  split at h
  · cases h
  · obtain ⟨p, -, hp⟩ := List.exists_of_findSome?_eq_some h
    exact Outcome.reason?_ne_empty hp

/-- What the reference catalog makes of a registry's maps: each reference command gets its
handler when that handler is true as a condition, and the stand-in for a command without one
otherwise. A handler that is false as a condition (an object whose `__bool__` or `__len__` says
so) gets the stand-in that says no handler is installed, discovery having dropped the failures
of every name it loaded. The stand-in names the failure recorded for the command when there is
one and suggests an install when there is not. -/
structure CatalogServes (H : List (String × Obj)) (F : List (String × String)) : Prop where
  commands : ∀ (asHandler : Obj → Handler), ∀ r ∈ referenceCommands,
    .descriptor (r.descriptor (Registry.handlerFor asHandler ⟨H, F⟩ r.name)) ∈
      (Registry.catalog asHandler ⟨H, F⟩).entries
  installed : ∀ (asHandler : Obj → Handler) n o, H.lookup n = some o →
    (asHandler o).truthy = true → Registry.handlerFor asHandler ⟨H, F⟩ n = asHandler o
  falsy : ∀ (asHandler : Obj → Handler) n o, H.lookup n = some o →
    (asHandler o).truthy = false → Registry.handlerFor asHandler ⟨H, F⟩ n = .missing n defaultProgram none
  absent : ∀ (asHandler : Obj → Handler) n, H.lookup n = none →
    Registry.handlerFor asHandler ⟨H, F⟩ n = .missing n defaultProgram ((F.lookup n).map .str)
  named : ∀ n reason, F.lookup n = some reason →
    (Handler.missingError n defaultProgram ((F.lookup n).map .str)).context =
      [("command", .str n), ("error", .str reason)]
  install : ∀ n, F.lookup n = none →
    (Handler.missingError n defaultProgram ((F.lookup n).map .str)).suggestions =
      [.str ("Install a package providing the '" ++ n ++ "' entry point in the '" ++
        entryPointGroup ++ "' group")]

theorem KeepsFirst.catalogServes {eps : List EntryPoint} {tr : List (EntryPoint × Outcome)}
    {H : List (String × Obj)} {F : List (String × String)} (hk : KeepsFirst eps tr H F) :
    CatalogServes H F where
  commands asHandler _ hr := Registry.mem_catalog asHandler ⟨H, F⟩ hr
  installed asHandler n o hH ht := referenceHandler_of_truthy (by simp [hH]) ht
  falsy asHandler n o hH ht := by
    -- a name that loaded has no failure left
    have hF : F.lookup n = none := by
      rw [hk.failures n, hH]
      rfl
    rw [Registry.handlerFor, referenceHandler_of_falsy (by simp [hH]) ht]
    simp [hF]
  absent asHandler n hH := referenceHandler_of_none (by simp [hH])
  named n reason h :=
    (missingError_of_failure n fun _ hsome => hk.reason_ne_empty hsome).1 reason h
  install n h := (missingError_of_failure n fun _ hsome => hk.reason_ne_empty hsome).2 h

/-! ## The registry -/

section Registry

variable {ld : Loader} {callable : Obj → Bool} {start : List String} {eps : List EntryPoint}

theorem discoverHandlers_of_ok {d : Discovery} (h : discoverWith ld callable start eps = .ok d)
    (reg : Registry) :
    (discoverHandlers ld callable start eps).run.run reg = (.ok d.handlers, ⟨d.handlers, d.failures⟩) := by
  unfold discoverHandlers
  rw [h]
  rfl

theorem discoverHandlers_of_error {f : Fault} (h : discoverWith ld callable start eps = .error f)
    (reg : Registry) : (discoverHandlers ld callable start eps).run.run reg = (.error f, reg) := by
  unfold discoverHandlers
  rw [h]
  rfl

end Registry

/-- What discovering handlers does, from what its loads come to. -/
structure HandlersDiscovered (ld : Loader) (callable : Obj → Bool) (start : List String)
    (eps : List EntryPoint) : Prop where
  /-- When every load finishes, the registry becomes the two maps discovery keeps, whatever it
  held, the handlers are returned, and the reference catalog serves them. -/
  found : ∀ last tr, loadTrace ld callable start (byName eps) = .ok (last, tr) →
    ∃ H F, KeepsFirst eps tr H F ∧ CatalogServes H F ∧
      ∀ reg : Registry, (discoverHandlers ld callable start eps).run.run reg = (.ok H, ⟨H, F⟩)
  /-- When a load raises something that is not an error, it propagates and the registry is
  left as it was. -/
  stopped : ∀ f, loadTrace ld callable start (byName eps) = .error f →
    ∀ reg : Registry, (discoverHandlers ld callable start eps).run.run reg = (.error f, reg)

theorem discovery_keeps_first_handlers (ld : Loader) (callable : Obj → Bool) (start : List String)
    (eps : List EntryPoint) : HandlersDiscovered ld callable start eps where
  found last tr h := by
    obtain ⟨d, hd, hkeeps⟩ := discoverWith_of_trace h
    exact ⟨d.handlers, d.failures, hkeeps, hkeeps.catalogServes, discoverHandlers_of_ok hd⟩
  stopped f h := discoverHandlers_of_error (discoverWith_of_fault h)

/-! ## Discovery in the world of objects -/

section World

variable (w : World)

theorem addWith_worldLoader (d : Discovery) (ep : EntryPoint) :
    addWith (worldLoader w) w.isCallable d ep = .ok (add w d ep) := by
  unfold addWith worldLoader add
  obtain ⟨loaded, r⟩ := load w d.loaded ep.value
  cases r <;> rfl

theorem foldlM_worldLoader :
    ∀ (eps : List EntryPoint) (d : Discovery),
      eps.foldlM (addWith (worldLoader w) w.isCallable) d = .ok (eps.foldl (add w) d)
  | [], _ => rfl
  | ep :: eps, d => by
    rw [List.foldlM_cons, addWith_worldLoader, List.foldl_cons]
    exact foldlM_worldLoader eps (add w d ep)

theorem discoverWith_worldLoader (eps : List EntryPoint) :
    discoverWith (worldLoader w) w.isCallable w.startLoaded eps = .ok (discover w eps) := by
  unfold discoverWith discover
  rw [foldlM_worldLoader]
  rfl

/-- Every load of the world finishes. -/
theorem loadTrace_worldLoader :
    ∀ (loaded : List String) (eps : List EntryPoint),
      ∃ last tr, loadTrace (worldLoader w) w.isCallable loaded eps = .ok (last, tr)
  | loaded, [] => ⟨loaded, [], rfl⟩
  | loaded, ep :: eps => by
    obtain ⟨last, tr, htr⟩ := loadTrace_worldLoader (load w loaded ep.value).1 eps
    refine ⟨last, (ep, Outcome.of w.isCallable ((load w loaded ep.value).2.mapError
      fun e => (e.className, e.message))) :: tr, ?_⟩
    simp only [loadTrace, worldLoader, bind, Except.bind, htr]
    rfl

/-- Discovery in the world of objects keeps the first handler and the first failure of each
name. -/
theorem discover_keeps_first (eps : List EntryPoint) :
    ∃ last tr, loadTrace (worldLoader w) w.isCallable w.startLoaded (byName eps) = .ok (last, tr) ∧
      KeepsFirst eps tr (discover w eps).handlers (discover w eps).failures := by
  obtain ⟨last, tr, htr⟩ := loadTrace_worldLoader w w.startLoaded (byName eps)
  obtain ⟨d, hd, hkeeps⟩ := discoverWith_of_trace htr
  rw [discoverWith_worldLoader] at hd
  cases hd
  exact ⟨last, tr, htr, hkeeps⟩

end World

end CommandLine.Plugin
