import KeyMatrix.AntiGhost
import KeyMatrix.Config.Stored
import KeyMatrix.Event.Stored
import KeyMatrix.EventLog
import KeyMatrix.Matrix
import KeyMatrix.Passthrough
import KeyMatrix.Replay
import KeyMatrix.Proofs.Census
import KeyMatrix.Proofs.Run
import KeyMatrix.Proofs.Course
import KeyMatrix.Proofs.KeyRun
import KeyMatrix.Proofs.Phantom
import KeyMatrix.Proofs.Acceptance
import KeyMatrix.Proofs.ChangeHint
import KeyMatrix.Proofs.Invariant
import KeyMatrix.Proofs.Spacing
import KeyMatrix.Proofs.WallClock
import KeyMatrix.Proofs.Settling
import KeyMatrix.Proofs.WrittenChanges
import KeyMatrix.Proofs.ChangeLog
import KeyMatrix.Proofs.Following
import KeyMatrix.Proofs.Isolation
import KeyMatrix.Proofs.Calls
import KeyMatrix.Proofs.RecentEvents
import KeyMatrix.Proofs.Renaming
import KeyMatrix.Proofs.Restart
import KeyMatrix.Proofs.SafePress
import KeyMatrix.Proofs.Guarded
import KeyMatrix.Proofs.NeverTraps
import KeyMatrix.Proofs.Desk
import KeyMatrix.Proofs.InPlace.AntiGhost
import KeyMatrix.Proofs.InPlace.Copying
import KeyMatrix.Proofs.InPlace
import KeyMatrix.Proofs.Refusals
import KeyMatrix.Proofs.GridMaps
import KeyMatrix.Proofs.Coverage
import KeyMatrix.Proofs.Clamping
import KeyMatrix.Proofs.Mirror
import KeyMatrix.Proofs.Widening
import KeyMatrix.Proofs.ExactTally
import KeyMatrix.Proofs.StrayBits
import KeyMatrix.Proofs.FirstReading
import KeyMatrix.Proofs.IdealTime
import KeyMatrix.Proofs.Freezing
import KeyMatrix.Proofs.LosslessTime
import KeyMatrix.Proofs.Interchange
import KeyMatrix.Proofs.StoredForms
import KeyMatrix.Proofs.ColumnSets
