/-! # Instruments

What figures are published with: counters that count under labels, and histograms that count
and sum up what they observe. Whoever keeps them is a parameter, given by what can be done to
an instrument and what can be read from it; all figures are whole numbers.
-/

namespace Purification

/-- Counters and histograms. -/
structure Instruments where
  Counter : Type
  Histogram : Type
  /-- A counter of this name and help text, by the values of one label. -/
  counter (name help label : String) : Counter
  counterName : Counter → String
  /-- One more under a value of the label. -/
  increment : Counter → String → Counter
  read : Counter → String → Nat
  /-- A histogram of this name and help text, under `n` bounds from 1 on, each `factor` times
      the one before. -/
  histogram (name help : String) (factor n : Nat) : Histogram
  histogramName : Histogram → String
  observe : Histogram → Nat → Histogram
  /-- How many values were observed. -/
  count : Histogram → Nat
  sum : Histogram → Nat

/-- A whole number rounded to its 53 leading bits, a half to the even neighbour. -/
def roundToDouble (n : Nat) : Nat :=
  let unit := 1 <<< (Nat.log2 n - 52)
  let below := n / unit
  let up := unit < 2 * (n % unit) ∨ (unit = 2 * (n % unit) ∧ below % 2 = 1)
  (if up then below + 1 else below) * unit

/-! ## Plain counters and histograms -/

/-- Counts under the values of one label. A value that was never counted has no entry. -/
structure LabelCounts where
  name : String
  help : String
  label : String
  entries : List (String × Nat) := []
  deriving Repr, DecidableEq

namespace LabelCounts

/-- One more for a value, among these entries. -/
def addTo (value : String) : List (String × Nat) → List (String × Nat)
  | [] => [(value, 1)]
  | (other, n) :: rest =>
      if other = value then (other, roundToDouble (n + 1)) :: rest
      else (other, n) :: addTo value rest

def increment (counts : LabelCounts) (value : String) : LabelCounts :=
  { counts with entries := addTo value counts.entries }

def get (counts : LabelCounts) (value : String) : Nat := (counts.entries.lookup value).getD 0

end LabelCounts

/-- Observed values by bound. -/
structure Histogram where
  name : String
  help : String
  /-- The bounds, each with the number of values within it and beyond the one before. -/
  buckets : List (Nat × Nat)
  count : Nat := 0
  sum : Nat := 0
  deriving Repr, DecidableEq

namespace Histogram

/-- No values yet, under `n` bounds from 1 on, each `factor` times the one before. -/
def exponential (name help : String) (factor n : Nat) : Histogram :=
  { name, help, buckets := (List.range n).map fun i => (Nat.pow factor i, 0) }

/-- Counts a value in the first bucket that holds it. -/
def addTo (value : Nat) : List (Nat × Nat) → List (Nat × Nat)
  | [] => []
  | (bound, n) :: rest =>
      if value ≤ bound then (bound, n + 1) :: rest else (bound, n) :: addTo value rest

def observe (h : Histogram) (value : Nat) : Histogram :=
  { h with
    buckets := addTo value h.buckets
    count := h.count + 1
    sum := roundToDouble (h.sum + value) }

/-- The bounds, each with the number of values within it, from `n` on. -/
def cumulate (n : Nat) : List (Nat × Nat) → List (Nat × Nat)
  | [] => []
  | (bound, m) :: rest => (bound, n + m) :: cumulate (n + m) rest

end Histogram

/-- Instruments that are values, and keep their figures to 53 bits as a double does. -/
def Instruments.plain : Instruments where
  Counter := LabelCounts
  Histogram := Purification.Histogram
  counter name help label := { name, help, label }
  counterName := LabelCounts.name
  increment := LabelCounts.increment
  read := LabelCounts.get
  histogram := Histogram.exponential
  histogramName := Histogram.name
  observe := Histogram.observe
  count := Histogram.count
  sum := Histogram.sum

end Purification
