import Labyrinth.Layout.Drawing
import Labyrinth.Layout.Reference
import Labyrinth.Log
import Labyrinth.Wire
import Labyrinth.Proofs.DirectRun
import Labyrinth.Proofs.Acceptance
import Labyrinth.Proofs.Runs
import Labyrinth.Proofs.Transcript
import Labyrinth.Proofs.Steps
import Labyrinth.Proofs.FreeFloor
import Labyrinth.Proofs.Sequence
import Labyrinth.Proofs.Concatenation
import Labyrinth.Proofs.Renaming
import Labyrinth.Proofs.MoveTexts
import Labyrinth.Proofs.Walks
import Labyrinth.Proofs.Indexing
import Labyrinth.Proofs.Tokens
import Labyrinth.Proofs.Readings
import Labyrinth.Proofs.Choices
import Labyrinth.Proofs.RoundTrip
import Labyrinth.Proofs.Symmetry
import Labyrinth.Proofs.Redrawing
import Labyrinth.Proofs.Drawings
import Labyrinth.Proofs.Locality
import Labyrinth.Proofs.Iterations
import Labyrinth.Proofs.Passes
import Labyrinth.Proofs.Neighbours
import Labyrinth.Proofs.Budget
import Labyrinth.Proofs.Recurrence
import Labyrinth.Proofs.Endings
import Labyrinth.Proofs.Shapes
import Labyrinth.Proofs.Rows
import Labyrinth.Proofs.Clamping
import Labyrinth.Proofs.Members
import Labyrinth.Proofs.Routes
import Labyrinth.Proofs.ForwardJumps
import Labyrinth.Proofs.UnusedAnchors
import Labyrinth.Proofs.LoadedLimits
import Labyrinth.Proofs.UndoneMoves
