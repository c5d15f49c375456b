import Purification.Call.Basic
import Purification.Decimal.Format
import Purification.Fault
import Purification.Metrics.Instruments

/-! # Collectors

The figures that are published: calls by status, sweeps by stop reason, and how many
passes and cells the sweeps took. Calls and stops are counted under their label texts.
-/

namespace Purification

/-- The published figures, kept with the given instruments. -/
structure Collectors (i : Instruments) where
  calls : i.Counter :=
    i.counter "purify_calls_total" "Purification calls by returned status" "status"
  stops : i.Counter := i.counter "purify_stops_total" "Engine runs by stop reason" "reason"
  passes : i.Histogram := i.histogram "purify_passes" "Sweeps per engine run" 2 12
  cells : i.Histogram := i.histogram "purify_cells" "Tensor cells per engine run" 4 14

namespace Collectors

/-- The names under which the figures are published. -/
def families : List String :=
  let fresh : Collectors .plain := {}
  [fresh.calls.name, fresh.stops.name, fresh.passes.name, fresh.cells.name]

/-- The figures after a call with this result, which declared `cells` cells. Histograms
    observe doubles. -/
def record {α : Type} {i : Instruments} (c : Collectors i) (result : Except Fault (Outcome α))
    (cells : Nat) : Collectors i :=
  let c := { c with calls := i.increment c.calls (Status.ofResult result).label }
  match result.toOption.bind (·.convergence?) with
  | none => c
  | some convergence =>
      let c := { c with stops := i.increment c.stops convergence.stop.label }
      if convergence.stop = .zeroWeight then c
      else
        { c with
          passes := i.observe c.passes (roundToDouble convergence.passes)
          cells := i.observe c.cells (roundToDouble cells) }

end Collectors

/-! ## Registries

Figures are published under names that no other figure may have.
-/

/-- The names that are taken. -/
structure Registry where
  names : List String
  deriving Repr, DecidableEq

namespace Registry

def empty : Registry := ⟨[]⟩

def register (r : Registry) (names : List String) : Except Telemetry.Fault Registry :=
  if names.any r.names.contains then
    .error (.metrics "Duplicate metrics collector registration attempted")
  else .ok ⟨r.names ++ names⟩

end Registry

/-! ## The page of figures

The published figures as a text, a line for each sample, under a heading for each
family. Families come in the order of their names, samples in the order of their labels.
A family of labelled counts without a sample is left out.
-/

def Collectors.heading (name help kind : String) : List String :=
  [s!"# HELP {name} {help}", s!"# TYPE {name} {kind}"]

def Collectors.sample (name label value : String) (count : Nat) : String :=
  s!"{name}\x7b{label}=\"{value}\"\x7d {count}"

def LabelCounts.lines (counts : LabelCounts) : List String :=
  if counts.entries.isEmpty then []
  else
    let entries := counts.entries.mergeSort fun a b => decide (a.1 ≤ b.1)
    Collectors.heading counts.name counts.help "counter" ++
      entries.map fun (value, count) => Collectors.sample counts.name counts.label value count

def Histogram.lines (h : Histogram) : List String :=
  let sum := NumberFormat.plain.write (.ofNat h.sum)
  Collectors.heading h.name h.help "histogram" ++
    (Histogram.cumulate 0 h.buckets).map (fun (bound, count) =>
      Collectors.sample s!"{h.name}_bucket" "le" s!"{bound}" count) ++
    [Collectors.sample s!"{h.name}_bucket" "le" "+Inf" h.count,
      s!"{h.name}_sum {sum}", s!"{h.name}_count {h.count}"]

/-- The page, each of its lines ended. -/
def Collectors.page (c : Collectors .plain) : String :=
  let lines :=
    LabelCounts.lines c.calls ++ Histogram.lines c.cells ++ Histogram.lines c.passes ++
      LabelCounts.lines c.stops
  String.join (lines.map (· ++ "\n"))

end Purification
