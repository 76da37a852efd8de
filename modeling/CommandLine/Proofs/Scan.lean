import CommandLine.Matching.Engine

/-!
# The algebra of a scan

A scan step runs in `ScanM`: it may stop the scan (a usage error, an exit, a fault) and it
threads the color chosen so far. This module gives the equations that run such a step
(`ScanM.run_bind` and its companions) and a small calculus of what a successful step
guarantees (`ScanM.Ensures`): a guarantee of each step composes through binds and folds into
a guarantee of the whole scan, whichever way the steps stop. A step that cannot fail and
only reads, such as reading the strings of a line, yields its value (`ScanM.Yields`).

The attributes a scan produces live in a `Namespace`, an association list set in place.
`Value.lookup` reads the last entry of a key, `Namespace.get?` the first; after a `set`
both read the value set, and merging one namespace into another lets the other's entries
win (`Namespace.get?_merge`).
-/

namespace CommandLine.Matching

/-! ## Running a step -/

section Run

variable {α β : Type}

@[simp] theorem ScanM.run_pure (a : α) (σ : ScanState) :
    (pure a : ScanM α).run.run σ = (.ok a, σ) := rfl

@[simp] theorem ScanM.run_throw (e : Halt) (σ : ScanState) :
    (throw e : ScanM α).run.run σ = (.error e, σ) := rfl

@[simp] theorem ScanM.run_modify (f : ScanState → ScanState) (σ : ScanState) :
    (modify f : ScanM Unit).run.run σ = (.ok (), f σ) := rfl

@[simp] theorem ScanM.run_get (σ : ScanState) :
    (get : ScanM ScanState).run.run σ = (.ok σ, σ) := rfl

/-- A bind runs its first step, and the second from the state the first leaves, unless the
first stops the scan. -/
theorem ScanM.run_bind (x : ScanM α) (f : α → ScanM β) (σ : ScanState) :
    (x >>= f).run.run σ = match x.run.run σ with
      | (.ok a, σ') => (f a).run.run σ'
      | (.error e, σ') => (.error e, σ') := by
  simp only [bind, ExceptT.bind, ExceptT.run, ExceptT.mk, StateT.run, StateT.bind,
    ExceptT.bindCont]
  rcases x σ with ⟨_ | a, σ'⟩ <;> rfl

theorem ScanM.run_bind_ok {x : ScanM α} {σ σ' : ScanState} {a : α}
    (h : x.run.run σ = (.ok a, σ')) (f : α → ScanM β) :
    (x >>= f).run.run σ = (f a).run.run σ' := by
  rw [ScanM.run_bind, h]

theorem ScanM.run_bind_error {x : ScanM α} {σ σ' : ScanState} {e : Halt}
    (h : x.run.run σ = (.error e, σ')) (f : α → ScanM β) :
    (x >>= f).run.run σ = (.error e, σ') := by
  rw [ScanM.run_bind, h]

/-- A bind succeeds only when both of its steps do. -/
theorem ScanM.run_bind_eq_ok {x : ScanM α} {f : α → ScanM β} {σ σ'' : ScanState} {b : β} :
    (x >>= f).run.run σ = (.ok b, σ'') →
      ∃ a σ', x.run.run σ = (.ok a, σ') ∧ (f a).run.run σ' = (.ok b, σ'') := by
  simp only [bind, ExceptT.bind, ExceptT.run, ExceptT.mk, StateT.run, StateT.bind,
    ExceptT.bindCont]
  rcases x σ with ⟨_ | a, σ'⟩
  · intro h
    cases h
  · exact fun h => ⟨a, σ', rfl, h⟩

end Run

@[simp] theorem Grammar.run_fail {α : Type} (g : Grammar) (columns : Int) (message : String)
    (σ : ScanState) :
    (g.fail columns message : ScanM α).run.run σ = (.error (.usage (g.usageError columns message)), σ) :=
  rfl

/-! ## What a successful step guarantees -/

/-- Every run of a step that succeeds, from any state, gives a result satisfying `P`. -/
def ScanM.Ensures {α : Type} (x : ScanM α) (P : α → Prop) : Prop :=
  ∀ σ a σ', x.run.run σ = (.ok a, σ') → P a

namespace ScanM

variable {α β γ : Type} {P Q : α → Prop}

theorem ensures_pure {a : α} (h : P a) : (pure a : ScanM α).Ensures P := by
  intro σ b σ' hrun
  cases hrun
  exact h

theorem ensures_throw (e : Halt) : (throw e : ScanM α).Ensures P := by
  intro σ b σ' hrun
  cases hrun

theorem ensures_fail (g : Grammar) (columns : Int) (message : String) :
    (g.fail columns message : ScanM α).Ensures P :=
  ensures_throw _

theorem Ensures.mono {x : ScanM α} (hx : x.Ensures Q) (h : ∀ a, Q a → P a) : x.Ensures P :=
  fun σ a σ' hrun => h a (hx σ a σ' hrun)

theorem ensures_bind {x : ScanM α} {f : α → ScanM β} {R : β → Prop} (hx : x.Ensures Q)
    (hf : ∀ a, Q a → (f a).Ensures R) : (x >>= f).Ensures R := by
  intro σ b σ'' hrun
  obtain ⟨a, σ', h1, h2⟩ := run_bind_eq_ok hrun
  exact hf a (hx σ a σ' h1) σ' b σ'' h2

theorem ensures_modify (f : ScanState → ScanState) :
    (modify f : ScanM Unit).Ensures fun _ => True :=
  fun _ _ _ _ => trivial

theorem ensures_get : (get : ScanM ScanState).Ensures fun _ => True :=
  fun _ _ _ _ => trivial

/-- An invariant of the accumulator that every step of a fold keeps holds after the fold. -/
theorem ensures_foldlM {l : List γ} {f : β → γ → ScanM β} (I : β → Prop) {b : β} (hb : I b)
    (hstep : ∀ b, I b → ∀ c ∈ l, (f b c).Ensures I) : (l.foldlM f b).Ensures I := by
  induction l generalizing b with
  | nil => exact ensures_pure hb
  | cons c l ih =>
    rw [List.foldlM_cons]
    exact ensures_bind (hstep b hb c (by simp)) fun b' hb' =>
      ih hb' fun b'' hb'' c' hc' => hstep b'' hb'' c' (by simp [hc'])

end ScanM

/-! ## Steps that only read -/

/-- A step that returns `a` from every state and leaves the state as it is. -/
def ScanM.Yields {α : Type} (x : ScanM α) (a : α) : Prop := ∀ σ, x.run.run σ = (.ok a, σ)

namespace ScanM

variable {α β : Type}

theorem yields_pure (a : α) : (pure a : ScanM α).Yields a := fun _ => rfl

theorem Yields.run_bind {x : ScanM α} {a : α} (hx : x.Yields a) (f : α → ScanM β)
    (σ : ScanState) : (x >>= f).run.run σ = (f a).run.run σ :=
  run_bind_ok (hx σ) f

theorem Yields.bind {x : ScanM α} {a : α} (hx : x.Yields a) {f : α → ScanM β} {b : β}
    (hf : (f a).Yields b) : (x >>= f).Yields b :=
  fun σ => (hx.run_bind f σ).trans (hf σ)

theorem Yields.eq {x : ScanM α} {a b : α} (ha : x.Yields a) (hb : x.Yields b) : a = b := by
  have h : ((.ok a : Except Halt α), ({} : ScanState)) = (.ok b, {}) := (ha {}).symm.trans (hb {})
  cases h
  rfl

end ScanM

/-! ## Namespaces -/

/-- Reading the last entry of a key from a fold that started with an earlier answer. -/
theorem Value.foldl_lookup (entries : List (String × Value)) (key : String)
    (acc : Option Value) :
    entries.foldl (fun acc (k, v) => if k == key then some v else acc) acc =
      (Value.lookup entries key).or acc := by
  induction entries generalizing acc with
  | nil => rfl
  | cons e entries ih =>
    obtain ⟨k, v⟩ := e
    have hhead : Value.lookup ((k, v) :: entries) key =
        (Value.lookup entries key).or (if k == key then some v else none) := ih _
    rw [List.foldl_cons, ih, hhead]
    by_cases hk : k = key <;> simp [hk]

/-- The last entry of a key wins. -/
theorem Value.lookup_cons (k : String) (v : Value) (entries : List (String × Value))
    (key : String) :
    Value.lookup ((k, v) :: entries) key =
      (Value.lookup entries key).or (if k = key then some v else none) := by
  unfold Value.lookup
  rw [List.foldl_cons, Value.foldl_lookup]
  by_cases hk : k = key <;> simp [hk, Value.lookup]

theorem Value.lookup_append_singleton (entries : List (String × Value)) (k : String) (v : Value)
    (key : String) :
    Value.lookup (entries ++ [(k, v)]) key = if k = key then some v else Value.lookup entries key := by
  unfold Value.lookup
  rw [List.foldl_append]
  by_cases hk : k = key <;> simp [hk]

/-- A key no entry has reads nothing. -/
theorem Value.lookup_eq_none {entries : List (String × Value)} {key : String}
    (h : ∀ e ∈ entries, e.1 ≠ key) : Value.lookup entries key = none := by
  induction entries with
  | nil => rfl
  | cons e entries ih =>
    obtain ⟨k, v⟩ := e
    have hk : k ≠ key := h (k, v) (by simp)
    rw [Value.lookup_cons, ih fun e he => h e (by simp [he])]
    simp [hk]

namespace Namespace

variable (ns : Namespace) {k key : String} (v : Value)

/-- Replacing the values of one key changes the reading of no other key. -/
theorem lookup_map_replace (h : k ≠ key) :
    Value.lookup (ns.map fun (k', w) => if k' == k then (k', v) else (k', w)) key =
      Value.lookup ns key := by
  induction ns with
  | nil => rfl
  | cons e ns ih =>
    obtain ⟨k', w⟩ := e
    simp only [List.map_cons, beq_iff_eq] at ih ⊢
    by_cases hk : k' = k
    · subst hk
      simp only [if_true, Value.lookup_cons, ih, h, if_false]
    · simp only [hk, if_false, Value.lookup_cons, ih]

theorem lookup_set_ne (h : k ≠ key) : Value.lookup (ns.set k v) key = Value.lookup ns key := by
  unfold set
  split
  · exact lookup_map_replace ns v h
  · simp [Value.lookup_append_singleton, h]

@[simp] theorem lookup_set_self : Value.lookup (ns.set k v) k = some v := by
  unfold set
  split
  · next hany =>
    induction ns with
    | nil => simp at hany
    | cons e ns ih =>
      obtain ⟨k', w⟩ := e
      simp only [List.map_cons, beq_iff_eq, List.any_cons, Bool.or_eq_true] at ih hany ⊢
      by_cases hk : k' = k
      · subst hk
        by_cases hrest : ns.any (fun x => x.1 == k') = true
        · simp [Value.lookup_cons, ih hrest]
        · -- the replaced head is the only entry of the key
          have hnone : Value.lookup (ns.map fun x => if x.1 = k' then (x.1, v) else (x.1, x.2)) k'
              = none := by
            refine Value.lookup_eq_none fun e he => ?_
            obtain ⟨e', he', rfl⟩ := List.mem_map.mp he
            have hne : e'.1 ≠ k' := fun heq => hrest (List.any_eq_true.mpr ⟨e', he', by simp [heq]⟩)
            simp [hne]
          simp [Value.lookup_cons, hnone]
      · simp only [hk, false_or] at hany
        simp [Value.lookup_cons, ih hany, hk]
  · simp [Value.lookup_append_singleton]

/-- After merging, a key reads its last entry in the merged namespace, if it has one there. -/
theorem lookup_merge (other : Namespace) :
    Value.lookup (ns.merge other) key = (Value.lookup other key).or (Value.lookup ns key) := by
  induction other generalizing ns with
  | nil => rfl
  | cons e other ih =>
    obtain ⟨k, w⟩ := e
    show Value.lookup (merge (ns.set k w) other) key = _
    rw [ih, Value.lookup_cons]
    by_cases hk : k = key
    · subst hk
      simp
    · simp [hk, lookup_set_ne _ _ hk]

theorem get?_set_ne (h : k ≠ key) : (ns.set k v).get? key = ns.get? key := by
  unfold set get?
  split
  · rw [List.find?_map]
    have hp : ((fun x : String × Value => x.1 == key) ∘
        fun (k', w) => if k' == k then (k', v) else (k', w)) = fun x => x.1 == key := by
      funext e
      by_cases he : e.1 = k <;> simp [he]
    rw [hp]
    cases hf : ns.find? (·.1 == key) with
    | none => rfl
    | some e =>
      have he : e.1 = key := by simpa using List.find?_some hf
      obtain ⟨k', w⟩ := e
      simp only at he
      subst he
      simp [h.symm]
  · rw [List.find?_append]
    cases ns.find? (·.1 == key) <;> simp [h]

@[simp] theorem get?_set_self : (ns.set k v).get? k = some v := by
  unfold set get?
  split
  · next hany =>
    rw [List.find?_map]
    have hp : ((fun x : String × Value => x.1 == k) ∘
        fun (k', w) => if k' == k then (k', v) else (k', w)) = fun x => x.1 == k := by
      funext e
      by_cases he : e.1 = k <;> simp [he]
    rw [hp]
    obtain ⟨e, he⟩ := Option.isSome_iff_exists.mp (List.find?_isSome.mpr (List.any_eq_true.mp hany))
    have hk : e.1 = k := by simpa using List.find?_some he
    obtain ⟨k', w⟩ := e
    simp only at hk
    subst hk
    simp [he]
  · next hany =>
    have hnone : ns.find? (·.1 == k) = none :=
      List.find?_eq_none.mpr fun e he heq => hany (List.any_eq_true.mpr ⟨e, he, heq⟩)
    rw [List.find?_append, hnone]
    simp

/-- After merging, a key reads its last entry in the merged namespace, if it has one there,
and what it read before otherwise. -/
theorem get?_merge (other : Namespace) :
    (ns.merge other).get? key = (Value.lookup other key).or (ns.get? key) := by
  induction other generalizing ns with
  | nil => rfl
  | cons e other ih =>
    obtain ⟨k, w⟩ := e
    show (merge (ns.set k w) other).get? key = _
    rw [ih, Value.lookup_cons]
    by_cases hk : k = key
    · subst hk
      simp
    · simp [hk, get?_set_ne _ _ hk]

end Namespace

end CommandLine.Matching
