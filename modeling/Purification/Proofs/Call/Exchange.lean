import Purification.Proofs.Call.Table
import Purification.Proofs.Sweep.Parallel

/-! # Calls with other weights or scores

A call may be made again with other weights or other scores in place of its own. If these are long
enough it comes to the same shape, and two such calls are compared by the runs of their tables.
-/

namespace Purification

variable {α : Type}

namespace Call

def reweighted (call : Call α) (weights : Array α) : Call α := { call with weights := some weights }

def rescored (call : Call α) (scores : Array α) : Call α := { call with scores := some scores }

section

variable {call : Call α} {shape : Shape} {weights weights' scores' : Array α} {field : Field α}
  (admitted : call.admission = .ok (.table shape weights field))

include admitted

theorem admission_reweighted (enough : shape.cellCount ≤ weights'.size) :
    (call.reweighted weights').admission = .ok (.table shape weights' field) := by
  have holds := (admits_of_admission admitted).toHolds
  have same : (call.reweighted weights').admission = (call.reweighted weights').table shape :=
    admission_congr admitted rfl rfl
  rw [same]
  exact Holds.table_eq ⟨rfl, holds.scores_eq, holds.impurities_eq, enough, holds.covers⟩

theorem admission_rescored (enough : shape.cellCount ≤ scores'.size) :
    (call.rescored scores').admission = .ok (.table shape weights ⟨scores', field.impurities⟩) := by
  have holds := (admits_of_admission admitted).toHolds
  have same : (call.rescored scores').admission = (call.rescored scores').table shape :=
    admission_congr admitted rfl rfl
  rw [same]
  exact Holds.table_eq
    ⟨holds.weights_eq, rfl, holds.impurities_eq, holds.weights_le, enough, holds.covers.lines⟩

end

end Call

/-- The report tells what a run has left behind. -/
structure Report.Tells (report : Report α) (result : Sweep.Result α) : Prop where
  leaves : report.Leaves result.convergence result.field
  intercept_eq : report.intercept = result.intercept

namespace Call

variable [Scalar α]

/-- Two calls that come to a sweep are answered as their runs compare. -/
theorem rel_purify {call call' : Call α} {shape shape' : Shape} {weights weights' : Array α}
    {field field' : Field α} {fuel : Nat} {limit : Option Nat}
    {runs : Sweep.Result α → Sweep.Result α → Prop} {reports : Report α → Report α → Prop}
    (admitted : call.admission = .ok (.table shape weights field))
    (admitted' : call'.admission = .ok (.table shape' weights' field'))
    (compared : Option.Rel runs
      (Sweep.run fuel shape call.tolerance limit weights field (call.intercept.map fun _ => 0))
      (Sweep.run fuel shape' call'.tolerance limit weights' field'
        (call'.intercept.map fun _ => 0)))
    (told : ∀ result result' report report', runs result result' →
      report.Tells result → report'.Tells result' → reports report report') :
    Option.Rel reports (call.purify fuel limit) (call'.purify fuel limit) := by
  rw [purify_of_admission admitted, purify_of_admission admitted']
  refine rel_map compared fun result result' related => ?_
  exact told _ _ _ _ related ⟨⟨rfl, rfl, rfl⟩, rfl⟩ ⟨⟨rfl, rfl, rfl⟩, rfl⟩

end Call

end Purification
