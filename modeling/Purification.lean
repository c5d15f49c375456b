import Purification.Main
import Purification.Capacity
import Purification.Call.Handling
import Purification.Guarded.Call
import Purification.Proofs.Call.Declared
import Purification.Proofs.Call.Decomposition
import Purification.Proofs.Call.Exchange
import Purification.Proofs.Call.Kept
import Purification.Proofs.Call.Order
import Purification.Proofs.Call.Prefix
import Purification.Proofs.Call.Protocol
import Purification.Proofs.Call.Table
import Purification.Proofs.Call.Told
import Purification.Proofs.Double.NotANumber
import Purification.Proofs.Double.Order
import Purification.Proofs.Double.Termination
import Purification.Proofs.Exact.Balance
import Purification.Proofs.Exact.Convergence
import Purification.Proofs.Exact.Dissipation
import Purification.Proofs.Exact.Energy
import Purification.Proofs.Exact.LeastSquares
import Purification.Proofs.Exact.Overlay
import Purification.Proofs.Exact.Plateau
import Purification.Proofs.Exact.Product
import Purification.Proofs.Exact.Reconstruction
import Purification.Proofs.Exact.Relabelling
import Purification.Proofs.Exact.Rescaling
import Purification.Proofs.Exact.Rest
import Purification.Proofs.Exact.Stopping
import Purification.Proofs.Exact.Tolerance
import Purification.Proofs.Exact.Weighing
import Purification.Proofs.Exact.Weightless
import Purification.Proofs.First
import Purification.Proofs.Guarded.Call
import Purification.Proofs.Guarded.Codec
import Purification.Proofs.Guarded.Layout
import Purification.Proofs.Guarded.Lines
import Purification.Proofs.Guarded.Sweep
import Purification.Proofs.Metrics.Conservation
import Purification.Proofs.Metrics.Figures
import Purification.Proofs.Metrics.Publication
import Purification.Proofs.Session.Capacity
import Purification.Proofs.Session.EntryPoints
import Purification.Proofs.Session.Marginals
import Purification.Proofs.Session.Observed
import Purification.Proofs.Session.Precedence
import Purification.Proofs.Session.Request
import Purification.Proofs.Session.Uniform
import Purification.Proofs.Session.Volume
import Purification.Proofs.Shape.Acceptance
import Purification.Proofs.Shape.Codec
import Purification.Proofs.Shape.Coordinates
import Purification.Proofs.Shape.Incidence
import Purification.Proofs.Shape.Moves
import Purification.Proofs.Shape.Numbering
import Purification.Proofs.Shape.Overflow
import Purification.Proofs.Shape.Radix
import Purification.Proofs.Shape.Relabelling
import Purification.Proofs.Sweep.Accumulation
import Purification.Proofs.Sweep.Agreement
import Purification.Proofs.Sweep.Block
import Purification.Proofs.Sweep.Cap
import Purification.Proofs.Sweep.Field
import Purification.Proofs.Sweep.Lost
import Purification.Proofs.Sweep.Opening
import Purification.Proofs.Sweep.Parallel
import Purification.Proofs.Sweep.Simultaneous
import Purification.Proofs.Sweep.Trajectory
