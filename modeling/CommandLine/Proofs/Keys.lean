import CommandLine.Value.Basic

/-!
# Names as keys

Command names are looked up as keys: by identity first, then by equality (`Value.same`).
Every value is the same key as itself (a not-a-number double included, being one object),
and a text is the same key only as the very same text.

A list of names is `Distinct` when no name is the same key as a name before it. This is the
condition under which registering the names one by one never meets a duplicate, and under
which a lookup by key finds each name at its own place (`find?_same_of_mem`).
-/

namespace CommandLine

deriving instance ReflBEq, LawfulBEq for Date
deriving instance ReflBEq, LawfulBEq for TimeOfDay

/-- IEEE equality is reflexive except on not-a-number. -/
theorem float_beq_self_or_isNaN (x : Float) : (x == x || x.isNaN) = true := by
  show (x.toModel.unpack.compare x.toModel.unpack == some .eq || x.toModel.unpack.isNaN) = true
  cases x.toModel.unpack with
  | infinity s => cases s <;> rfl
  | notANumber => rfl
  | zero s => rfl
  | finite s m e h =>
    -- a finite double compares its exponent and its mantissa with themselves
    have hself : (compare e e).then (compare m m) = .eq := by simp [Ordering.then]
    cases s with
    | positive =>
      show (some ((compare e e).then (compare m m)) == some .eq || false) = true
      rw [hself]
      rfl
    | negative =>
      show (some ((compare e e).then (compare m m)).swap == some .eq || false) = true
      rw [hself]
      rfl

namespace Value

mutual
/-- Every value is the same key as itself. -/
theorem same_self : (v : Value) → v.same v = true
  | .none => rfl
  | .bool b => by cases b <;> rfl
  | .int n => by simp [same, numeric?, sameNumber]
  | .float x => by simpa [same] using float_beq_self_or_isNaN x
  | .str s => by simp [same]
  | .list items => by simpa [same] using sameItems_self items
  | .table entries => by simpa [same] using sameEntries_self entries
  | .date d => by simp [same]
  | .time t => by simp [same]
  | .stamp d t o => by simp [same]

theorem sameItems_self : (l : List Value) → sameItems l l = true
  | [] => rfl
  | a :: as => by simp [sameItems, same_self a, sameItems_self as]

theorem sameEntries_self : (l : List (String × Value)) → sameEntries l l = true
  | [] => rfl
  | (k, a) :: as => by simp [sameEntries, same_self a, sameEntries_self as]
end

attribute [simp] same_self

@[simp] theorem same_str_iff (v : Value) (s : String) : v.same (.str s) = true ↔ v = .str s := by
  cases v <;> simp [same, numeric?]

@[simp] theorem asString?_eq_some_iff (v : Value) (s : String) :
    v.asString? = some s ↔ v = .str s := by
  cases v <;> simp [asString?]

end Value

/-! ## Distinct names -/

/-- No name of the list is the same key as a name before it. -/
def Distinct (names : List Value) : Prop :=
  names.Pairwise fun a b => a.same b = false

instance : DecidablePred Distinct := fun names =>
  inferInstanceAs (Decidable (names.Pairwise fun a b => a.same b = false))

theorem Distinct.sublist {names names' : List Value} (h : Distinct names)
    (hs : names'.Sublist names) : Distinct names' :=
  List.Pairwise.sublist hs h

theorem Distinct.of_append_left {names names' : List Value} (h : Distinct (names ++ names')) :
    Distinct names :=
  h.sublist (List.sublist_append_left _ _)

theorem distinct_append_singleton {names : List Value} {x : Value} :
    Distinct (names ++ [x]) ↔ Distinct names ∧ ∀ y ∈ names, y.same x = false := by
  simp [Distinct, List.pairwise_append]

/-- In a list whose keys are distinct, looking up the key of a member finds that member:
every entry before it has a key that is not the same. -/
theorem find?_same_of_mem {α : Type} (key : α → Value) {l : List α}
    (hd : Distinct (l.map key)) {a : α} (ha : a ∈ l) :
    l.find? (fun b => (key b).same (key a)) = some a := by
  induction l with
  | nil => simp at ha
  | cons b rest ih =>
    simp only [Distinct, List.map_cons, List.pairwise_cons, List.mem_map] at hd
    obtain ⟨hb, hrest⟩ := hd
    rcases List.mem_cons.mp ha with rfl | ha'
    · simp
    · have hskip : (key b).same (key a) = false := hb (key a) ⟨a, ha', rfl⟩
      rw [List.find?_cons, hskip]
      exact ih hrest ha'

theorem find?_same_eq_none {α : Type} (key : α → Value) {l : List α} {x : Value}
    (h : ∀ b ∈ l, (key b).same x = false) :
    l.find? (fun b => (key b).same x) = none :=
  List.find?_eq_none.mpr fun b hb => by simp [h b hb]

end CommandLine
