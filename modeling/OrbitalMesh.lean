import OrbitalMesh.Authority.StoreRefinement
import OrbitalMesh.Permit.Fencing
import OrbitalMesh.Patch.CommittedWork
import OrbitalMesh.Authority.Evidence
import OrbitalMesh.ControlPlane.LiveExecution
import OrbitalMesh.ControlPlane.OneLog
import OrbitalMesh.ControlPlane.Appenders
import OrbitalMesh.ControlPlane.SessionUpdates
import OrbitalMesh.Bridge.Binding
import OrbitalMesh.ControlPlane.WorkerStage
import OrbitalMesh.ControlPlane.Approvals
import OrbitalMesh.Learning.TrustLadder
import OrbitalMesh.Orchestrator.Retries
import OrbitalMesh.ControlPlane.DeferredRuns
import OrbitalMesh.ControlPlane.RunAdmission
import OrbitalMesh.Observer.Redaction
import OrbitalMesh.Actuators.SystemdSsh
import OrbitalMesh.Decision.Reports
import OrbitalMesh.ControlPlane.DeferralChains
import OrbitalMesh.Signals.AlertStore
import OrbitalMesh.Memory.StoreAgreement
import OrbitalMesh.Memory.HelixConvergence
import OrbitalMesh.Watchers.Registry
import OrbitalMesh.Watchers.Kubernetes
import OrbitalMesh.Operator.IdentityRuns
import OrbitalMesh.Investigation.HarnessRuns
import OrbitalMesh.Signals.ObservedDeployment
import OrbitalMesh.Investigation.ReadOnlyTools
import OrbitalMesh.Feedback.LiveSuccess
import OrbitalMesh.Decision.RuleBounds
import OrbitalMesh.Signals.FeatureFlags
import OrbitalMesh.Decision.ScenarioReview
import OrbitalMesh.Decision.RolloutReductions
import OrbitalMesh.Evaluation.RemediationSafety
import OrbitalMesh.Orchestrator.Reconciliation
import OrbitalMesh.Signals.Trends
import OrbitalMesh.Decision.LlmFallback
import OrbitalMesh.Learning.LearnedRules
import OrbitalMesh.Watchers.SignalCorrelator
import OrbitalMesh.Orchestrator.Ownership
import OrbitalMesh.Memory.GraphRetrieval
import OrbitalMesh.Perennial.Reservoirs
import OrbitalMesh.ControlPlane.RunExport
import OrbitalMesh.Orchestrator.Topology
import OrbitalMesh.Investigation.LlmPlanner
import OrbitalMesh.Signals.WebhookSignatures
import OrbitalMesh.Perennial.GovernanceCommits
import OrbitalMesh.Memory.ActiveMemory
import OrbitalMesh.Evaluation.SreJudge
import OrbitalMesh.Observer.CredentialEgress
import OrbitalMesh.ControlPlane.Overrides
import OrbitalMesh.ControlPlane.OverrideReviews
