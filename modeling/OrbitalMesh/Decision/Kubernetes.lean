import OrbitalMesh.Decision.FeatureFlags

/-!
# Decisions about Kubernetes deployments

`DecisionService._decide_kubernetes`: a ladder of rules over the symptoms of a
deployment.  Where the ladder escalates, the top hypothesis may take its place;
after that the escalation reasoner is asked.
-/

namespace OrbitalMesh.Decision

/-- The members of a hypothesis that the decision reads, as `to_dict` gives them. -/
structure RankedHypothesis where
  hypothesisId : String
  recommendedAction : String
  posteriorConfidence : Binary64
  supportingEvidence : List String
  disconfirmingEvidence : List String

/-- The values that the ladder for deployments looks at. -/
structure KubernetesFacts where
  errorSignatures : List Json
  eventReasons : List Json
  rolloutStatus : String
  codeRemediation : Bool
  repeatedRollback : Bool
  deployCorrelated : Bool
  correlation : Dict

variable (facts : KubernetesFacts)

/-- `name in error_signatures`. -/
def KubernetesFacts.shows (name : String) : Bool :=
  facts.errorSignatures.contains (.str name)

variable (reading : TextReading)

/-- `seconds_since_deploy is not None and int(seconds_since_deploy) <= window`. -/
def deployCorrelated (window : Int) (trigger : Trigger) :
    Except PyError Bool :=
  match trigger.context "seconds_since_deploy" with
  | .null => .ok false
  | value => do
    let seconds ← pyInt reading value
    return decide (seconds ≤ window)

/-- The beginning of `_decide_kubernetes`.  `window` is the correlation window. -/
def kubernetesFacts (window : Int) (trigger : Trigger) :
    Except PyError KubernetesFacts := do
  let context := trigger.relatedContext
  let errorSignatures ← pyList (getOr context "error_signatures" (.arr []))
  let eventReasons ← pyList (getOr context "event_reasons" (.arr []))
  let allowedPaths ← pyList (getOr context "allowed_paths" (.arr []))
  let testCommands ← pyList (getOr context "test_commands" (.arr []))
  let rollbacks ← pyInt reading (getOr context "rollbacks_last_24h" (.int 0))
  let deployCorrelated ← deployCorrelated reading window trigger
  let correlation ← membersOf (getOr context "correlation" (.obj []))
  return {
    errorSignatures, eventReasons, deployCorrelated, correlation
    rolloutStatus := pyStr (getOr context "rollout_status" (.str "degraded"))
    codeRemediation := errorSignatures.contains (.str "application_error") &&
      codeRemediationSupplied trigger allowedPaths testCommands
    repeatedRollback := decide (0 < rollbacks) }

inductive KubernetesRung where
  | codeRemediation
  | oomKilled
  | imagePullFailure
  | rolloutFailedAgain
  | rolloutFailed
  | crashLoopAfterDeploy
  | crashLoopWithoutDeploy
  | probeFailure
  | configurationDrift
  | unmatched
deriving DecidableEq

def kubernetesRung : KubernetesRung :=
  if facts.codeRemediation then .codeRemediation
  else if facts.shows "oom_killed" then .oomKilled
  else if facts.shows "image_pull_failure" then .imagePullFailure
  else if facts.rolloutStatus == "failed" then
    if facts.repeatedRollback then .rolloutFailedAgain else .rolloutFailed
  else if facts.shows "crash_loop" && facts.deployCorrelated then .crashLoopAfterDeploy
  else if facts.shows "crash_loop" && !facts.deployCorrelated then .crashLoopWithoutDeploy
  else if facts.shows "probe_failure" &&
      !(facts.shows "crash_loop" || facts.shows "oom_killed") then .probeFailure
  else if facts.shows "configuration_drift" then .configurationDrift
  else .unmatched

structure TieredChoice extends Choice where
  autonomyTier : String

variable (repeatedRollback : Bool)

/-- `"approval_required" if repeated_rollback else "autonomous"`. -/
def tierAfterRollback : String :=
  if repeatedRollback then "approval_required" else "autonomous"

def KubernetesRung.choice : KubernetesRung → TieredChoice
  | .codeRemediation =>
    ⟨⟨"investigate_and_patch", 0.81, "medium"⟩, tierAfterRollback repeatedRollback⟩
  | .oomKilled => ⟨⟨"patch_resources", 0.74, "medium"⟩, "approval_required"⟩
  | .imagePullFailure =>
    ⟨⟨"rollback_deployment", 0.9, "medium"⟩, tierAfterRollback repeatedRollback⟩
  | .rolloutFailedAgain => ⟨⟨"escalate", 0.65, "high"⟩, "escalated"⟩
  | .rolloutFailed => ⟨⟨"rollback_deployment", 0.85, "medium"⟩, "autonomous"⟩
  | .crashLoopAfterDeploy =>
    ⟨⟨"rollback_deployment", 0.83, "medium"⟩, tierAfterRollback repeatedRollback⟩
  | .crashLoopWithoutDeploy => ⟨⟨"escalate", 0.7, "high"⟩, "escalated"⟩
  | .probeFailure => ⟨⟨"defer_until", 0.70, "low"⟩, "autonomous"⟩
  | .configurationDrift => ⟨⟨"escalate", 0.64, "medium"⟩, "escalated"⟩
  | .unmatched => ⟨⟨"escalate", 0.6, "high"⟩, "escalated"⟩

/-- The rungs that escalate for a reason of their own. -/
def KubernetesRung.guards : KubernetesRung → Bool
  | .rolloutFailedAgain | .crashLoopWithoutDeploy | .configurationDrift => true
  | _ => false

/-- `_LLM_ALLOWED_ACTIONS | {"scale_deployment", "restart_pod", "patch_resources"}`. -/
def allowedUpgrades : List String :=
  llmAllowedActions ++ ["scale_deployment", "restart_pod", "patch_resources"]

namespace RankedHypothesis

/-- `_hypothesis_has_resolved_evidence`. -/
def hasResolvedEvidence (hypothesis : RankedHypothesis) : Bool :=
  !hypothesis.supportingEvidence.isEmpty || !hypothesis.disconfirmingEvidence.isEmpty

/-- The hypothesis may take the place of an escalation. -/
def upgrades (hypothesis : RankedHypothesis) : Bool :=
  hypothesis.hasResolvedEvidence && Binary64.le 0.55 hypothesis.posteriorConfidence &&
    allowedUpgrades.contains hypothesis.recommendedAction

/-- `str(top.get("hypothesis_id", "")).startswith("h_rca_")`. -/
def fromReport (hypothesis : RankedHypothesis) : Bool :=
  decide ("h_rca_".toList <+: hypothesis.hypothesisId.toList)

end RankedHypothesis

def upgrade? (decisionType : String) (hypotheses : List RankedHypothesis) :
    Option RankedHypothesis :=
  if decisionType == "escalate" then hypotheses.head?.filter RankedHypothesis.upgrades else none

def upgradedBy (top : Option RankedHypothesis)
    (choice : TieredChoice) : TieredChoice :=
  match top with
  | some top =>
    { decisionType := top.recommendedAction
      confidence := top.posteriorConfidence.least 0.82
      riskLevel := "medium"
      autonomyTier := tierAfterRollback (repeatedRollback || top.fromReport) }
  | none => choice

def afterHypotheses (hypotheses : List RankedHypothesis)
    (choice : TieredChoice) : TieredChoice :=
  upgradedBy repeatedRollback (upgrade? choice.decisionType hypotheses) choice

def withOverride (override : Option ReasoningResult)
    (choice : TieredChoice) : TieredChoice :=
  match override with
  | some _ =>
    { afterReasoner choice.toChoice override with
      autonomyTier := tierAfterRollback repeatedRollback }
  | none => choice

/-- `correlation.get("type") in ("blast_wave", "cascading")`. -/
def widespread : Bool :=
  ["blast_wave", "cascading"].any fun name =>
    getOr facts.correlation "type" .null == .str name

def correlatedTier (autonomyTier : String) : String :=
  if widespread facts then "approval_required" else autonomyTier

/-- Where the answers of the services come from: the reading of texts, the
correlation window, the hypotheses and the reasoner. -/
structure KubernetesServices where
  reading : TextReading
  window : Int
  hypotheses : List RankedHypothesis
  reasoner : Reasoner

variable (services : KubernetesServices) (trigger : Trigger)

/-- The confidence that a decision about a deployment carries. -/
def kubernetesConfidence (facts : KubernetesFacts) (base : Binary64) : Except PyError Binary64 := do
  let relatedRuns ← recoveryCount reading trigger.recoveryContext "related_run_count"
  let factors ← buildConfidenceFactors reading base relatedRuns
    (getOr facts.correlation "correlation_confidence" .null) facts.errorSignatures none
    trigger.recoveryContext
  return confidenceFromFactors factors

def blastRadius (rung : KubernetesRung) (replaced : Bool) : String :=
  if rung = .codeRemediation ∧ replaced = false then "single_repo_single_file"
  else "single_deployment"

def kubernetesChoice (facts : KubernetesFacts) :
    Except PyError (TieredChoice × Option ReasoningResult) := do
  let ladder := (kubernetesRung facts).choice facts.repeatedRollback
  let upgraded := afterHypotheses facts.repeatedRollback services.hypotheses ladder
  let override ← askReasoner services.reasoner upgraded.decisionType upgraded.confidence
  return (withOverride facts.repeatedRollback override upgraded, override)

def decideKubernetes (analysis : Option ScenarioAnalysis) : Except PyError RemediationDecision := do
  let facts ← kubernetesFacts services.reading services.window trigger
  let (choice, override) ← kubernetesChoice services facts
  let confidence ← kubernetesConfidence services.reading trigger facts choice.confidence
  requireTexts facts.errorSignatures
  requireTexts facts.eventReasons
  let plan ← executionPlan services.reading trigger choice.decisionType 0
  let decision : RemediationDecision :=
    { decisionType := choice.decisionType
      autonomyTier := correlatedTier facts choice.autonomyTier
      riskLevel := choice.riskLevel
      blastRadius := blastRadius (kubernetesRung facts) override.isSome
      confidence
      executionPlan := plan }
  let reviewed ← applyScenarioAnalysis services.reading trigger analysis 0 decision
  reviewed.validated

end OrbitalMesh.Decision
