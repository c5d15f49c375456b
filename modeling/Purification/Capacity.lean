import Purification.Document

/-! # Vectors that cannot be had

A decomposition asks for a slot for each line, and a document without weights for a weight for
each cell, both counted from the lengths alone. A vector can only be had if its bytes can be
counted by a signed number of 64 bits; asking for more ends the request without an answer.
-/

namespace Purification

/-- The greatest number of entries that a vector of doubles can have, at eight bytes each. -/
def capacity : Nat := ((1 <<< 63) - 1) / 8

/-- How a request ends that asks for vectors of its own. -/
inductive Provided (β : Type) where
  | answered (answer : β)
  /-- So many entries were asked for at once, which is more than a vector can have. -/
  | exhausted (entries : Nat)
  deriving Repr

/-- A number of entries that no vector can have. -/
def excess? (entries : Nat) : Option Nat := if capacity < entries then some entries else none

/-- The slots that a decomposition asks for in vain. It asks once the lengths are declared, and
    before anything else is checked. -/
def Decomposition.excess? (lengths : List Nat) : Option Nat :=
  match declare lengths with
  | .error _ => none
  | .ok _ => Purification.excess? (slotCount lengths)

/-- The weights that a document asks for in vain, if it leaves them out. -/
def TableDocument.weightExcess? (x : TableDocument) : Option Nat :=
  match x.weights with
  | some _ => none
  | none => Purification.excess? (uniformCount x.lengths x.scores.length)

/-- What a document asks for in vain: its weights are made up first, then the slots. -/
def TableDocument.excess? (x : TableDocument) : Option Nat :=
  x.weightExcess?.or (Decomposition.excess? x.lengths)

namespace Session

/-- Decomposes a table, if there can be slots for it. -/
def decomposeOwned (fuel : Nat) (s : Session Float) (lengths : List Nat)
    (weights scores : Array Float) :
    Option (Provided (Except Fault (Decomposition Float) × Session Float)) :=
  match Decomposition.excess? lengths with
  | some entries => some (.exhausted entries)
  | none => (s.decompose fuel lengths weights scores).map .answered

/-- Decomposes the table of a document, if there can be weights and slots for it. -/
def runOwned (fuel : Nat) (s : Session Float) (x : TableDocument) :
    Option (Provided (Except Failure PartsDocument × Session Float)) :=
  match x.excess? with
  | some entries => some (.exhausted entries)
  | none => (s.run fuel x).map .answered

end Session

end Purification
