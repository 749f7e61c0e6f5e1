import Safeguard.Admin.Answer
import Safeguard.Call.InFlight
import Safeguard.Config.Loading
import Safeguard.Document.Json
import Safeguard.Metrics
import Safeguard.Proofs.Admin.Key
import Safeguard.Proofs.Admin.Strangers
import Safeguard.Proofs.Breaker.Availability
import Safeguard.Proofs.Breaker.Counters
import Safeguard.Proofs.Breaker.FailFast
import Safeguard.Proofs.Breaker.LateFailure
import Safeguard.Proofs.Breaker.Recovery
import Safeguard.Proofs.Breaker.Reports
import Safeguard.Proofs.Breaker.SingleTrial
import Safeguard.Proofs.Breaker.Timestamps
import Safeguard.Proofs.Breaker.TrialSlot
import Safeguard.Proofs.Call.Deadline
import Safeguard.Proofs.Call.OneCall
import Safeguard.Proofs.Config.Keys
import Safeguard.Proofs.Config.Rules
import Safeguard.Proofs.Document.RoundTrip
import Safeguard.Proofs.Health.Course
import Safeguard.Proofs.Health.DeadDependency
import Safeguard.Proofs.Health.Modes
import Safeguard.Proofs.Health.Overall
import Safeguard.Proofs.Health.Report
import Safeguard.Proofs.Health.Scene
import Safeguard.Proofs.Health.Steady
import Safeguard.Proofs.Health.Targets
import Safeguard.Proofs.Health.Timetable
import Safeguard.Proofs.Notice.Dated
import Safeguard.Proofs.Registry.FirstUse
import Safeguard.Proofs.Registry.Isolation
import Safeguard.Proofs.Registry.ValidBreakers
import Safeguard.Proofs.Retry.Bound
import Safeguard.Proofs.Retry.LastAttempt
import Safeguard.Proofs.Retry.Markers
import Safeguard.Proofs.Shutdown.Audience
import Safeguard.Shutdown
import Safeguard.Simulation.Step
import Safeguard.Startup
