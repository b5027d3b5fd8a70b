import Rollout.Api.Routes
import Rollout.Host.InMemory
import Rollout.Local.Masking
import Rollout.Local.Script
import Rollout.Main
import Rollout.Proofs.AuditIndependence
import Rollout.Proofs.ObservedSuccess
import Rollout.Proofs.ProgressReport
import Rollout.Proofs.EngineHistory
import Rollout.Proofs.Retention
import Rollout.Proofs.PipelineResult
import Rollout.Proofs.RecordIdentity
import Rollout.Proofs.ExecutionCourse
import Rollout.Proofs.Answering
import Rollout.Proofs.Federating
import Rollout.Proofs.OutputAgreement
import Rollout.Proofs.Secrecy
import Rollout.Proofs.Placeholders
import Rollout.Proofs.WireTypes
import Rollout.Proofs.CursorBounds
import Rollout.Proofs.PollCourse
import Rollout.Proofs.HeartbeatNames
import Rollout.Proofs.SavedManifest
import Rollout.Proofs.ReservedNames
import Rollout.Proofs.BuildVariables
import Rollout.Proofs.ScalarReading
import Rollout.Proofs.TypedOverrides
import Rollout.Proofs.Targets
import Rollout.Proofs.MappedRoles
import Rollout.Proofs.EntityPaths
import Rollout.Proofs.GrantLifetime
import Rollout.Proofs.ParameterScope
import Rollout.Proofs.CompleteProviders
import Rollout.Proofs.LedgerItems
import Rollout.Proofs.TaskReports
import Rollout.Proofs.WordPieces
