import Mathlib.Order.Bounds.Basic

/-! # First places and first rules

A scan stops at the first place that has a property. A list of checks answers with the first
rule that applies, so a later rule says something only of what has passed all those before it.
-/

namespace Purification

/-! ## Places -/

theorem isLeast_succ {p : Nat → Prop} {k : Nat} (first : ¬ p 0)
    (rest : IsLeast {k | p (k + 1)} k) : IsLeast {k | p k} (k + 1) := by
  refine ⟨rest.1, fun j hj => ?_⟩
  cases j with
  | zero => exact absurd hj first
  | succ j => exact Nat.succ_le_succ (rest.2 hj)

theorem isLeast_zero {p : Nat → Prop} (first : p 0) : IsLeast {k | p k} 0 :=
  ⟨first, fun _ _ => Nat.zero_le _⟩

theorem isLeast_of_find?_zipIdx {β : Type} {p : β → Bool} {xs : List β} {x : β} {i : Nat}
    (h : (xs.zipIdx.find? fun (y, _) => p y) = some (x, i)) :
    xs[i]? = some x ∧ IsLeast {j | ∃ y, xs[j]? = some y ∧ p y = true} i := by
  obtain ⟨holds, place, inside, found, before⟩ := List.find?_eq_some_iff_getElem.1 h
  rw [List.getElem_zipIdx, Prod.mk.injEq, Nat.zero_add] at found
  obtain ⟨there, rfl⟩ := found
  rw [List.length_zipIdx] at inside
  have there : xs[place]? = some x := List.getElem?_eq_some_iff.2 ⟨inside, there⟩
  refine ⟨there, ⟨x, there, holds⟩, ?_⟩
  rintro j ⟨y, other, holds'⟩
  by_contra earlier
  have refuted := before j (Nat.not_le.1 earlier)
  rw [List.getElem_zipIdx, (List.getElem?_eq_some_iff.1 other).2] at refuted
  dsimp only at refuted
  rw [holds'] at refuted
  cases refuted

theorem forall_of_find?_zipIdx {β : Type} {p : β → Bool} {xs : List β}
    (h : (xs.zipIdx.find? fun (y, _) => p y) = none) : ∀ x ∈ xs, p x = false := by
  intro x member
  obtain ⟨i, there⟩ := List.mem_iff_getElem?.1 member
  have refuted := List.find?_eq_none.1 h (x, i) (List.mem_zipIdx_iff_getElem?.2 there)
  exact Bool.eq_false_iff.2 refuted

/-! ## Rules -/

/-- What a list of rules answers, each rule being the results it allows: a result of the first
    rule that applies, and nothing if no rule does. -/
inductive First {ρ : Type} : List (ρ → Prop) → Option ρ → Prop where
  | silent : First [] none
  | here {rule : ρ → Prop} {rules : List (ρ → Prop)} {result : ρ} (applies : rule result) :
      First (rule :: rules) (some result)
  | later {rule : ρ → Prop} {rules : List (ρ → Prop)} {answer : Option ρ}
      (passed : ∀ result, ¬ rule result) (rest : First rules answer) : First (rule :: rules) answer

namespace First

variable {ρ : Type} {rules rules' : List (ρ → Prop)} {answer : Option ρ} {result : ρ}

theorem append_some (h : First rules (some result)) : First (rules ++ rules') (some result) := by
  generalize same : some result = answer at h
  induction h with
  | silent => cases same
  | here applies =>
      cases same
      exact .here applies
  | later passed _ ih => exact .later passed (ih same)

theorem append_none (h : First rules none) (h' : First rules' answer) :
    First (rules ++ rules') answer := by
  generalize same : (none : Option ρ) = passed at h
  induction h with
  | silent => exact h'
  | here => cases same
  | later passed _ ih => exact .later passed (ih same)

theorem exists_rule (h : First rules (some result)) : ∃ rule ∈ rules, rule result := by
  generalize same : some result = answer at h
  induction h with
  | silent => cases same
  | here applies =>
      cases same
      exact ⟨_, List.mem_cons_self, applies⟩
  | later _ _ ih =>
      obtain ⟨rule, member, applies⟩ := ih same
      exact ⟨rule, List.mem_cons_of_mem _ member, applies⟩

theorem unique (single : ∀ rule ∈ rules, ∀ r r', rule r → rule r' → r = r')
    (h : First rules answer) {answer' : Option ρ} (h' : First rules answer') :
    answer = answer' := by
  induction h with
  | silent =>
      cases h'
      rfl
  | here applies =>
      cases h' with
      | here applies' => rw [single _ List.mem_cons_self _ _ applies applies']
      | later passed => exact absurd applies (passed _)
  | later passed _ ih =>
      cases h' with
      | here applies => exact absurd applies (passed _)
      | later _ rest =>
          exact ih (fun rule member => single rule (List.mem_cons_of_mem _ member)) rest

end First

end Purification
