import Mathlib
import CommandLine.Matching.Similar

/-!
# The most similar name

`closestMatch` scores the candidates that pass the three cutoff tests and walks them in
order, keeping the better of the best so far and the next one: the one with the higher
ratio, or with the greater name when the ratios are equal (`betterThan`). This module shows
that this walk finds the greatest qualifying candidate of a ranking, so the choice depends
only on which candidates there are, not on their order or their repetitions.

The ranking is a strict total order because a ratio that passes the cutoff is a number, and
IEEE comparison orders numbers totally: it compares their `place`, the class of the double
(negative infinity, negative, zero, positive, positive infinity) followed by its exponent and
its mantissa. Only not-a-number has no place, and no comparison with it holds.

So the choice is a qualifying candidate that outranks every other one
(`closestMatch_eq_some_iff`), there is none exactly when no candidate qualifies
(`closestMatch_eq_none_iff`), and candidate lists with the same members give the same choice
(`closestMatch_congr`).
-/

namespace CommandLine.Matching

open Float.Model
open Float.Model.UnpackedFloat (Sign)

/-! ## IEEE comparison of numbers -/

/-- Where IEEE comparison puts a double: its class (negative infinity, negative, zero,
positive, positive infinity), then its exponent and its mantissa, both negated below zero.
Both zeros share one place; not-a-number has none. -/
def place : UnpackedFloat → Option (Int × Int × Int)
  | .notANumber => none
  | .infinity .negative => some (0, 0, 0)
  | .finite .negative m e _ => some (1, -e, -m)
  | .zero _ => some (2, 0, 0)
  | .finite .positive m e _ => some (3, e, m)
  | .infinity .positive => some (4, 0, 0)

/-- The order of places: by class, then exponent, then mantissa. -/
def PlaceLt (a b : Int × Int × Int) : Prop :=
  a.1 < b.1 ∨ a.1 = b.1 ∧ (a.2.1 < b.2.1 ∨ a.2.1 = b.2.1 ∧ a.2.2 < b.2.2)

theorem PlaceLt.irrefl (a : Int × Int × Int) : ¬PlaceLt a a := by
  unfold PlaceLt
  omega

theorem PlaceLt.trans {a b c : Int × Int × Int} (hab : PlaceLt a b) (hbc : PlaceLt b c) :
    PlaceLt a c := by
  unfold PlaceLt at *
  omega

theorem placeLt_trichotomy (a b : Int × Int × Int) : PlaceLt a b ∨ a = b ∨ PlaceLt b a := by
  obtain ⟨a1, a2, a3⟩ := a
  obtain ⟨b1, b2, b3⟩ := b
  simp only [PlaceLt, Prod.mk.injEq]
  omega

@[simp] theorem Sign.compare_negative_positive : compare Sign.negative Sign.positive = .lt := rfl

@[simp] theorem Sign.compare_self (s : Sign) : compare s s = .eq := by
  cases s <;> rfl

/-- IEEE `<` on numbers is the order of their places. -/
theorem UnpackedFloat.lt_iff_placeLt {u v : UnpackedFloat} {a b : Int × Int × Int}
    (hu : place u = some a) (hv : place v = some b) : u.lt v = true ↔ PlaceLt a b := by
  -- one comparison for each pair of classes and signs
  rcases u with ⟨_ | _⟩ | _ | s | ⟨_ | _, m, e, hm⟩ <;>
  rcases v with ⟨_ | _⟩ | _ | t | ⟨_ | _, n, f, hn⟩ <;>
  simp only [place, Option.some.injEq, reduceCtorEq] at hu hv <;> subst hu hv <;>
  simp [UnpackedFloat.lt, UnpackedFloat.compare, PlaceLt, Ordering.then_eq_lt, Ordering.then_eq_gt,
    Ordering.swap_eq_lt, Int.compare_eq_lt, Int.compare_eq_gt, Nat.compare_eq_lt,
    Nat.compare_eq_gt]

theorem UnpackedFloat.beq_iff_place_eq {u v : UnpackedFloat} {a b : Int × Int × Int}
    (hu : place u = some a) (hv : place v = some b) : u.beq v = true ↔ a = b := by
  rcases u with ⟨_ | _⟩ | _ | s | ⟨_ | _, m, e, hm⟩ <;>
  rcases v with ⟨_ | _⟩ | _ | t | ⟨_ | _, n, f, hn⟩ <;>
  simp only [place, Option.some.injEq, reduceCtorEq] at hu hv <;> subst hu hv <;>
  simp [UnpackedFloat.beq, UnpackedFloat.compare, Ordering.then_eq_eq, Ordering.swap_eq_eq]

theorem UnpackedFloat.compare_notANumber (u : UnpackedFloat) : u.compare .notANumber = none := by
  cases u <;> rfl

theorem Float.decide_lt (a b : Float) :
    decide (a < b) = a.toModel.unpack.lt b.toModel.unpack := by
  show decide (a.lt b = true) = _
  rw [Bool.decide_eq_true]
  show decide (a.toModel.unpack.lt b.toModel.unpack = true) = _
  rw [Bool.decide_eq_true]

theorem Float.decide_le (a b : Float) :
    decide (a ≤ b) = a.toModel.unpack.le b.toModel.unpack := by
  show decide (a.le b = true) = _
  rw [Bool.decide_eq_true]
  show decide (a.toModel.unpack.le b.toModel.unpack = true) = _
  rw [Bool.decide_eq_true]

/-- A double that is at least some double is a number. -/
theorem place_of_le {c r : Float} (h : c ≤ r) : ∃ a, place r.toModel.unpack = some a := by
  have hle : c.toModel.unpack.le r.toModel.unpack = true := by
    rw [← Float.decide_le]
    exact decide_eq_true h
  cases hr : r.toModel.unpack with
  | notANumber =>
    rw [hr, UnpackedFloat.le, UnpackedFloat.compare_notANumber] at hle
    cases hle
  | infinity s => cases s <;> exact ⟨_, rfl⟩
  | zero s => exact ⟨_, rfl⟩
  | finite s m e hm => cases s <;> exact ⟨_, rfl⟩

/-! ## The ranking of candidates -/

section Ranking

variable (word : String)

/-- The score of a candidate that passes the three cutoff tests: its ratio, with itself. -/
def score (x : String) : Option (Float × String) :=
  if lengthBound x word >= similarityCutoff && countBound x word >= similarityCutoff then
    let r := ratio x word
    if r >= similarityCutoff then some (r, x) else none
  else none

/-- A candidate passes the cutoff on the bound from lengths, on the bound from character
counts, and on the ratio. -/
def Qualifies (x : String) : Prop :=
  lengthBound x word ≥ similarityCutoff ∧ countBound x word ≥ similarityCutoff ∧
    ratio x word ≥ similarityCutoff

/-- `y` outranks `z` as a match for the word: its ratio is higher, or the ratios are equal
and `y` is the greater name. -/
def Outranks (y z : String) : Prop := betterThan (ratio y word) y (ratio z word) z = true

variable {word}

theorem score_eq_some_iff {x : String} {p : Float × String} :
    score word x = some p ↔ Qualifies word x ∧ p = (ratio x word, x) := by
  unfold score Qualifies
  by_cases h1 : lengthBound x word ≥ similarityCutoff <;>
    by_cases h2 : countBound x word ≥ similarityCutoff <;>
    by_cases h3 : ratio x word ≥ similarityCutoff <;>
    simp [h1, h2, h3, eq_comm]

theorem Qualifies.place {x : String} (h : Qualifies word x) :
    ∃ a, place (ratio x word).toModel.unpack = some a :=
  place_of_le h.2.2

/-- Between numbers, outranking is the order of ratios, then of names. -/
theorem outranks_iff {y z : String} {a b : Int × Int × Int}
    (hy : place (ratio y word).toModel.unpack = some a)
    (hz : place (ratio z word).toModel.unpack = some b) :
    Outranks word y z ↔ PlaceLt b a ∨ a = b ∧ z < y := by
  unfold Outranks betterThan
  show (decide (ratio z word < ratio y word) ||
      ((ratio y word).toModel.unpack.beq (ratio z word).toModel.unpack && decide (z < y))) = true ↔ _
  rw [Float.decide_lt]
  simp [UnpackedFloat.lt_iff_placeLt hz hy, UnpackedFloat.beq_iff_place_eq hy hz]

theorem Outranks.asymm {y z : String} (hy : Qualifies word y) (hz : Qualifies word z)
    (h : Outranks word y z) : ¬Outranks word z y := by
  obtain ⟨a, ha⟩ := hy.place
  obtain ⟨b, hb⟩ := hz.place
  rw [outranks_iff ha hb] at h
  rw [outranks_iff hb ha]
  rintro (hba | ⟨rfl, hyz⟩)
  · rcases h with hab | ⟨rfl, -⟩
    · exact PlaceLt.irrefl _ (hab.trans hba)
    · exact PlaceLt.irrefl _ hba
  · rcases h with hab | ⟨-, hzy⟩
    · exact PlaceLt.irrefl _ hab
    · exact String.lt_asymm hzy hyz

theorem Outranks.trans {y z w : String} (hy : Qualifies word y) (hz : Qualifies word z)
    (hw : Qualifies word w) (hyz : Outranks word y z) (hzw : Outranks word z w) :
    Outranks word y w := by
  obtain ⟨a, ha⟩ := hy.place
  obtain ⟨b, hb⟩ := hz.place
  obtain ⟨c, hc⟩ := hw.place
  rw [outranks_iff ha hb] at hyz
  rw [outranks_iff hb hc] at hzw
  rw [outranks_iff ha hc]
  rcases hyz with hba | ⟨rfl, hzy⟩ <;> rcases hzw with hcb | ⟨rfl, hwz⟩
  · exact .inl (hcb.trans hba)
  · exact .inl hba
  · exact .inl hcb
  · exact .inr ⟨rfl, String.lt_trans hwz hzy⟩

theorem outranks_total {y z : String} (hy : Qualifies word y) (hz : Qualifies word z)
    (hne : y ≠ z) : Outranks word y z ∨ Outranks word z y := by
  obtain ⟨a, ha⟩ := hy.place
  obtain ⟨b, hb⟩ := hz.place
  rw [outranks_iff ha hb, outranks_iff hb ha]
  rcases placeLt_trichotomy a b with hab | rfl | hba
  · exact .inr (.inl hab)
  · -- equal ratios: the names decide
    rcases String.le_total y z with hle | hle
    · exact .inr (.inr ⟨rfl, lt_of_le_of_ne hle hne⟩)
    · exact .inl (.inr ⟨rfl, lt_of_le_of_ne hle (Ne.symm hne)⟩)
  · exact .inl (.inl hba)

end Ranking

/-! ## The walk keeps the best -/

section Walk

variable {α : Type} {R : α → α → Prop} {S : α → Prop}

/-- `m` is the best of a list: a member that every other member ranks below. -/
def IsBest (R : α → α → Prop) (l : List α) (m : α) : Prop := m ∈ l ∧ ∀ a ∈ l, a ≠ m → R m a

/-- A walk that keeps the best so far unless the next item is better ends with the best item,
when the ranking is transitive and total on the items. -/
theorem foldl_isBest {f : Option α → α → Option α}
    (hkeep : ∀ q p, (R p q → f (some q) p = some p) ∧ (¬R p q → f (some q) p = some q))
    (htrans : ∀ a b c, S a → S b → S c → R a b → R b c → R a c)
    (htotal : ∀ a b, S a → S b → a ≠ b → R a b ∨ R b a) :
    ∀ (l : List α) (q : α), S q → (∀ a ∈ l, S a) →
      ∃ m, l.foldl f (some q) = some m ∧ IsBest R (q :: l) m
  | [], q, _, _ => ⟨q, rfl, List.mem_singleton_self q, fun a ha hne => absurd (by simpa using ha) hne⟩
  | p :: l, q, hq, hl => by
    have hp : S p := hl p List.mem_cons_self
    have hl' : ∀ a ∈ l, S a := fun a ha => hl a (List.mem_cons_of_mem p ha)
    by_cases hpq : R p q
    · -- the next item is better: the walk goes on from it
      obtain ⟨m, hm, hmem, hbest⟩ := foldl_isBest hkeep htrans htotal l p hp hl'
      refine ⟨m, by rw [List.foldl_cons, (hkeep q p).1 hpq, hm], ?_, ?_⟩
      · exact List.mem_cons_of_mem q hmem
      · intro a ha hne
        rcases List.mem_cons.mp ha with rfl | ha
        · by_cases hmp : m = p
          · exact hmp ▸ hpq
          · exact htrans m p a (hl m hmem) hp hq (hbest p List.mem_cons_self (Ne.symm hmp)) hpq
        · exact hbest a ha hne
    · -- the best so far stays
      obtain ⟨m, hm, hmem, hbest⟩ := foldl_isBest hkeep htrans htotal l q hq hl'
      have hS : ∀ a ∈ q :: l, S a := fun a ha => by
        rcases List.mem_cons.mp ha with rfl | ha
        · exact hq
        · exact hl' a ha
      refine ⟨m, by rw [List.foldl_cons, (hkeep q p).2 hpq, hm], ?_, ?_⟩
      · rcases List.mem_cons.mp hmem with rfl | hmem
        · exact List.mem_cons_self
        · exact List.mem_cons_of_mem q (List.mem_cons_of_mem p hmem)
      · intro a ha hne
        rcases List.mem_cons.mp ha with rfl | ha
        · exact hbest a List.mem_cons_self hne
        rcases List.mem_cons.mp ha with rfl | ha
        · -- the skipped item ranks below the best so far, hence below the best
          by_cases haq : a = q
          · subst haq
            exact hbest a List.mem_cons_self hne
          · have hqa : R q a := (htotal a q hp hq haq).resolve_left hpq
            by_cases hmq : m = q
            · exact hmq ▸ hqa
            · exact htrans m q a (hS m hmem) hq hp (hbest q List.mem_cons_self (Ne.symm hmq)) hqa
        · exact hbest a (List.mem_cons_of_mem q ha) hne

end Walk

/-! ## The choice -/

section Choice

variable {word : String} {candidates : List String}

/-- One step of the walk of `closestMatch`: the next scored candidate replaces the best so
far when it is better. -/
def keepBetter (best : Option (Float × String)) (p : Float × String) : Option (Float × String) :=
  match best with
  | none => some p
  | some q => if betterThan p.1 p.2 q.1 q.2 then some p else best

/-- `closestMatch` walks the scored candidates and returns the name it ends with. -/
theorem closestMatch_eq_walk (word : String) (candidates : List String) :
    closestMatch word candidates =
      ((candidates.filterMap (score word)).foldl keepBetter none).map (·.2) := by
  unfold closestMatch
  dsimp only
  -- the scoring is `score` as it stands; the step differs only in how it takes the pair apart
  congr 2
  funext best p
  cases best <;> rfl

/-- The ranking of scored candidates that the walk uses. -/
def ScoreOutranks (p q : Float × String) : Prop := betterThan p.1 p.2 q.1 q.2 = true

theorem scoreOutranks_iff {y z : String} :
    ScoreOutranks (ratio y word, y) (ratio z word, z) ↔ Outranks word y z :=
  Iff.rfl

/-- What every scored candidate is: a qualifying candidate with its ratio. -/
def Scored (word : String) (p : Float × String) : Prop :=
  Qualifies word p.2 ∧ p = (ratio p.2 word, p.2)

theorem scored_of_mem {p : Float × String} (hp : p ∈ candidates.filterMap (score word)) :
    Scored word p := by
  obtain ⟨x, -, hx⟩ := List.mem_filterMap.mp hp
  obtain ⟨hq, rfl⟩ := score_eq_some_iff.mp hx
  exact ⟨hq, rfl⟩

theorem mem_scored {x : String} (hx : x ∈ candidates) (hq : Qualifies word x) :
    (ratio x word, x) ∈ candidates.filterMap (score word) :=
  List.mem_filterMap.mpr ⟨x, hx, score_eq_some_iff.mpr ⟨hq, rfl⟩⟩

/-- The walk over a nonempty list of scored candidates ends with the best of them. -/
theorem walk_isBest {l : List (Float × String)} (hS : ∀ a ∈ l, Scored word a) (hl : l ≠ []) :
    ∃ m, l.foldl keepBetter none = some m ∧ IsBest ScoreOutranks l m := by
  obtain ⟨p, l, rfl⟩ := List.exists_cons_of_ne_nil hl
  refine foldl_isBest (S := Scored word) (fun q p => ⟨fun h => ?_, fun h => ?_⟩) ?_ ?_ l p
    (hS p List.mem_cons_self) (fun a ha => hS a (List.mem_cons_of_mem p ha))
  · simp only [ScoreOutranks] at h
    simp [keepBetter, h]
  · simp only [ScoreOutranks] at h
    simp [keepBetter, h]
  · intro a b c ⟨ha, hpa⟩ ⟨hb, hpb⟩ ⟨hc, hpc⟩ hab hbc
    rw [hpa, hpb] at hab
    rw [hpb, hpc] at hbc
    rw [hpa, hpc]
    exact Outranks.trans ha hb hc hab hbc
  · intro a b ⟨ha, hpa⟩ ⟨hb, hpb⟩ hne
    have hne' : a.2 ≠ b.2 := fun h => hne (by rw [hpa, hpb, h])
    rw [hpa, hpb]
    exact outranks_total ha hb hne'

/-- The walk ends with nothing only over no candidate. -/
theorem walk_eq_none {l : List (Float × String)} (h : l.foldl keepBetter none = none) : l = [] := by
  cases l with
  | nil => rfl
  | cons p l =>
    -- after its first step the walk always holds a candidate
    have hkeep : ∀ (l : List (Float × String)) q, ∃ m, l.foldl keepBetter (some q) = some m := by
      intro l
      induction l with
      | nil => exact fun q => ⟨q, rfl⟩
      | cons a l ih =>
        intro q
        by_cases hb : betterThan a.1 a.2 q.1 q.2 = true
        · exact ih a |>.imp fun m hm => by simpa [keepBetter, hb] using hm
        · exact ih q |>.imp fun m hm => by simpa [keepBetter, hb] using hm
    obtain ⟨m, hm⟩ := hkeep l p
    rw [List.foldl_cons] at h
    simp [keepBetter, hm] at h

/-- The choice is a qualifying candidate that outranks every other qualifying candidate. -/
theorem closestMatch_eq_some_iff {y : String} :
    closestMatch word candidates = some y ↔
      y ∈ candidates ∧ Qualifies word y ∧
        ∀ z ∈ candidates, Qualifies word z → z ≠ y → Outranks word y z := by
  have hS : ∀ a ∈ candidates.filterMap (score word), Scored word a := fun a ha => scored_of_mem ha
  rw [closestMatch_eq_walk]
  constructor
  · intro h
    obtain ⟨m, hm, rfl⟩ := Option.map_eq_some_iff.mp h
    have hne : candidates.filterMap (score word) ≠ [] := by
      rintro hl
      rw [hl] at hm
      cases hm
    obtain ⟨m', hm', hmem, hbest⟩ := walk_isBest hS hne
    obtain rfl : m' = m := Option.some.inj (hm'.symm.trans hm)
    obtain ⟨x, hx, hsx⟩ := List.mem_filterMap.mp hmem
    obtain ⟨hq, rfl⟩ := score_eq_some_iff.mp hsx
    refine ⟨hx, hq, fun z hz hqz hne => ?_⟩
    have hzx : (ratio z word, z) ≠ (ratio x word, x) := fun h => hne (congrArg Prod.snd h)
    exact scoreOutranks_iff.mp (hbest _ (mem_scored hz hqz) hzx)
  · rintro ⟨hy, hqy, hbest⟩
    have hymem := mem_scored hy hqy
    obtain ⟨m, hm, hmem, hmbest⟩ := walk_isBest hS (List.ne_nil_of_mem hymem)
    obtain ⟨x, hx, hsx⟩ := List.mem_filterMap.mp hmem
    obtain ⟨hqx, rfl⟩ := score_eq_some_iff.mp hsx
    -- the walk ends with `y`: otherwise each would outrank the other
    by_cases hxy : x = y
    · subst hxy
      rw [hm]
      rfl
    · have h1 : Outranks word y x := hbest x hx hqx hxy
      have h2 : Outranks word x y :=
        scoreOutranks_iff.mp (hmbest _ hymem fun h => hxy (congrArg Prod.snd h).symm)
      exact absurd h1 (Outranks.asymm hqx hqy h2)

/-- There is no choice exactly when no candidate qualifies. -/
theorem closestMatch_eq_none_iff :
    closestMatch word candidates = none ↔ ∀ z ∈ candidates, ¬Qualifies word z := by
  rw [closestMatch_eq_walk, Option.map_eq_none_iff]
  constructor
  · intro h z hz hqz
    have hl := walk_eq_none h
    have hzmem := mem_scored hz hqz
    rw [hl] at hzmem
    cases hzmem
  · intro h
    have hl : candidates.filterMap (score word) = [] := by
      refine List.filterMap_eq_nil_iff.mpr fun x hx => ?_
      cases hs : score word x with
      | none => rfl
      | some p => exact absurd (score_eq_some_iff.mp hs).1 (h x hx)
    rw [hl]
    rfl

/-- Candidate lists with the same members give the same choice. -/
theorem closestMatch_congr {candidates' : List String}
    (h : ∀ x, x ∈ candidates ↔ x ∈ candidates') :
    closestMatch word candidates = closestMatch word candidates' := by
  cases hc : closestMatch word candidates with
  | none =>
    refine (closestMatch_eq_none_iff.mpr fun z hz => ?_).symm
    exact closestMatch_eq_none_iff.mp hc z ((h z).mpr hz)
  | some y =>
    obtain ⟨hy, hqy, hbest⟩ := closestMatch_eq_some_iff.mp hc
    exact (closestMatch_eq_some_iff.mpr ⟨(h y).mp hy, hqy,
      fun z hz hqz hne => hbest z ((h z).mpr hz) hqz hne⟩).symm

end Choice

end CommandLine.Matching
