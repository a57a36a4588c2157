import OrbitalMesh.Decision.Advice

/-!
# Decisions about feature flags

`DecisionService.decide` for a regression after a change of a flag: a ladder of
rules over the metrics and the context, the escalation reasoner after it, and the
tier.
-/

namespace OrbitalMesh.Decision

variable (trigger : Trigger)

/-- `trigger.metrics[key]`. -/
def metricAt (key : String) : Except PyError Json :=
  match trigger.metrics.get? key with
  | some value => .ok value
  | none => .error ⟨.keyError, pyRepr key⟩

def operands (operator : String) (left right : Json) : Except PyError (Number × Number) :=
  match asNumber? left, asNumber? right with
  | some a, some b => .ok (a, b)
  | _, _ =>
    typeError ("unsupported operand type(s) for " ++ operator ++ ": '" ++ typeName left ++
      "' and '" ++ typeName right ++ "'")

/-- `value == 0`. -/
def isZero (value : Json) : Bool :=
  (asNumber? value).any fun number => number.exact == .finite 0

def deltaPct (baseline observed : Json) : Except PyError Binary64 :=
  if isZero baseline then .ok (.finite 0)
  else do
    let (observed, baseline) ← operands "-" observed baseline
    let ratio ← (← observed.sub baseline).div baseline
    return (ratio.mul (.finite 100)).roundTo 1

def ratio (baseline observed : Json) : Except PyError Binary64 :=
  if isZero baseline then .ok (if isZero observed then .finite 0 else .infinite false)
  else do
    let (observed, baseline) ← operands "/" observed baseline
    return (← observed.div baseline).roundTo 2

def compared (value : Json) : Except PyError Binary64 :=
  match asNumber? value with
  | some number => .ok number.exact
  | none => typeError ("comparison not supported between instances of '" ++ typeName value ++
      "' and 'float'")

/-- The values that the ladder for feature flags looks at. -/
structure FlagFacts where
  latencyDeltaPct : Binary64
  errorMultiplier : Binary64
  timeoutRate : Binary64
  multiServiceImpact : Bool
  protectedTier : Bool
  repeatedRollback : Bool
  flagRollbackConflict : Bool
  highBusinessImpact : Bool
  flagCausalityConfidence : Json
  activeIncidents : Int
  similarPriorCases : Int
  triggerSignals : List Json
  credentialsAvailable : Bool
  codeRemediation : Bool

/-- `trigger.segment["customer_tier"] in protected_tiers`. -/
def protectedTier : Except PyError Bool :=
  match trigger.segment.get? "customer_tier" with
  | some tier => .ok (["strategic", "platinum"].any fun name => tier == .str name)
  | none => .error ⟨.keyError, pyRepr "customer_tier"⟩

def codeRemediationSupplied (allowedPaths testCommands : List Json) : Bool :=
  flagAt trigger.relatedContext "code_remediation_candidate" false &&
    truthy (trigger.context "repo_path") && truthy (trigger.context "suspected_file") &&
    !allowedPaths.isEmpty && !testCommands.isEmpty &&
    matchesType (trigger.context "patch_template") .object

variable (reading : TextReading)

/-- The beginning of `decide`. -/
def flagFacts (trigger : Trigger) : Except PyError FlagFacts := do
  let context := trigger.relatedContext
  let baselineLatency ← metricAt trigger "baseline_p95_latency_ms"
  let observedLatency ← metricAt trigger "observed_p95_latency_ms"
  let latencyDeltaPct ← deltaPct baselineLatency observedLatency
  let baselineErrors ← metricAt trigger "baseline_error_rate"
  let observedErrors ← metricAt trigger "observed_error_rate"
  let errorMultiplier ← ratio baselineErrors observedErrors
  let timeoutRate ← compared
    (pyOr (getOr trigger.metrics "observed_timeout_rate" .null) (.float false 0 0))
  let protectedTier ← protectedTier trigger
  let rollbacks ← compared (getOr context "rollbacks_last_24h" (.int 0))
  let activeIncidents ← pyInt reading (getOr context "active_incidents" (.int 0))
  let similarPriorCases ← pyInt reading (getOr context "similar_prior_cases" (.int 0))
  let triggerSignals ← pyList (getOr context "trigger_signals" (.arr []))
  let allowedPaths ← pyList (getOr context "allowed_paths" (.arr []))
  let testCommands ← pyList (getOr context "test_commands" (.arr []))
  return {
    latencyDeltaPct, errorMultiplier, timeoutRate, protectedTier, activeIncidents,
    similarPriorCases, triggerSignals
    multiServiceImpact := flagAt context "multi_service_impact" false
    repeatedRollback := Binary64.lt (.finite 0) rollbacks
    flagRollbackConflict := flagAt context "flag_rollback_conflict" false
    highBusinessImpact := flagAt context "high_business_impact" false
    flagCausalityConfidence := trigger.context "flag_causality_confidence"
    credentialsAvailable := flagAt context "feature_flag_credentials_available" true
    codeRemediation := codeRemediationSupplied trigger allowedPaths testCommands }

inductive FlagRung where
  | codeRemediation
  | impactOrConflict
  | flagNotCausal
  | severe
  | mild
  | reducible
  | unmatched
deriving DecidableEq

def featureFlagReductionSupported (facts : FlagFacts) : Bool :=
  trigger.flagKey.any (· != "") && trigger.currentRolloutPct.any (0 < ·) &&
    (Binary64.le (.finite 25) facts.latencyDeltaPct || Binary64.le 1.5 facts.errorMultiplier ||
      Binary64.lt (.finite 0) facts.timeoutRate)

/-- `flag_causality_confidence is not None and float(...) <= 0.35 and timeout_rate < 0.02`. -/
def flagNotCausal (facts : FlagFacts) : Except PyError Bool :=
  match facts.flagCausalityConfidence with
  | .null => .ok false
  | value => do
    let confidence ← pyFloat reading value
    return confidence.le 0.35 && facts.timeoutRate.lt 0.02

def flagRung (trigger : Trigger) (facts : FlagFacts) :
    Except PyError FlagRung :=
  if facts.codeRemediation then .ok .codeRemediation
  else if facts.highBusinessImpact || facts.flagRollbackConflict then .ok .impactOrConflict
  else do
    if ← flagNotCausal reading facts then return .flagNotCausal
    else if Binary64.le 0.02 facts.timeoutRate || Binary64.le (.finite 2) facts.errorMultiplier ||
        Binary64.le (.finite 40) facts.latencyDeltaPct then return .severe
    else if facts.latencyDeltaPct.lt (.finite 25) && facts.errorMultiplier.lt 1.5 then return .mild
    else if featureFlagReductionSupported trigger facts then return .reducible
    else return .unmatched

/-- What a ladder leaves to the advice after it. -/
structure Choice where
  decisionType : String
  confidence : Binary64
  riskLevel : String

def FlagRung.choice : FlagRung → Choice
  | .codeRemediation => ⟨"investigate_and_patch", 0.78, "medium"⟩
  | .impactOrConflict => ⟨"escalate", 0.64, "high"⟩
  | .flagNotCausal => ⟨"no_action", 0.79, "low"⟩
  | .severe => ⟨"disable_flag", 0.88, "medium"⟩
  | .mild => ⟨"no_action", 0.77, "low"⟩
  | .reducible => ⟨"reduce_rollout", 0.82, "medium"⟩
  | .unmatched => ⟨"escalate", 0.60, "high"⟩

variable (facts : FlagFacts) (choice : Choice)

/-- With incidents open, a flag that is likely to be the cause is not left alone. -/
def withIncidents : Except PyError Choice :=
  if choice.decisionType == "no_action" && decide (0 < facts.activeIncidents) then do
    let causality ← compared (pyOr facts.flagCausalityConfidence (.int 0))
    return if Binary64.le 0.7 causality then
      { decisionType := "reduce_rollout", confidence := choice.confidence.greatest 0.8,
        riskLevel := "medium" }
    else choice
  else .ok choice

def lacksCredentials : Bool :=
  ["disable_flag", "reduce_rollout"].contains choice.decisionType && !facts.credentialsAvailable

def withCredentials : Choice :=
  if lacksCredentials facts choice then
    { decisionType := "escalate", confidence := choice.confidence.least 0.7,
      riskLevel := "medium" }
  else choice

/-- Where the answers of the services come from: the reading of texts, the rates of
success in the learning store, and the reasoner. -/
structure FlagServices where
  reading : TextReading
  historicalSuccessRate : String → Option Binary64
  reasoner : Reasoner

def flagConfidence (services : FlagServices) (trigger : Trigger) (facts : FlagFacts)
    (choice : Choice) : Except PyError Binary64 := do
  let factors ← buildConfidenceFactors services.reading choice.confidence facts.similarPriorCases
    facts.flagCausalityConfidence facts.triggerSignals
    (services.historicalSuccessRate choice.decisionType) trigger.recoveryContext
  return confidenceFromFactors factors

def afterReasoner (override : Option ReasoningResult) : Choice :=
  match override with
  | some reasoning =>
    { decisionType := reasoning.suggestedAction, confidence := reasoning.confidence.least 0.85,
      riskLevel := "medium" }
  | none => choice

def flagTier (decisionType : String) : String :=
  if decisionType == "escalate" then "escalated"
  else if facts.multiServiceImpact || facts.protectedTier || facts.repeatedRollback then
    "approval_required"
  else "autonomous"

def targetRollout : Int :=
  if 10 ≤ trigger.currentRolloutPct.getD 0 then 10 else 0

def flagLadder (trigger : Trigger) (facts : FlagFacts) :
    Except PyError (FlagRung × Choice) := do
  let rung ← flagRung reading trigger facts
  let choice ← withIncidents facts rung.choice
  return (rung, choice)

/-- `DecisionService.decide`, for a feature flag. -/
def decideFeatureFlag (services : FlagServices) (trigger : Trigger)
    (analysis : Option ScenarioAnalysis) : Except PyError RemediationDecision := do
  let facts ← flagFacts services.reading trigger
  let (_, climbed) ← flagLadder services.reading trigger facts
  let ladder := withCredentials facts climbed
  let confidence ← flagConfidence services trigger facts ladder
  let settled := { ladder with confidence }
  let override ← askReasoner services.reasoner settled.decisionType settled.confidence
  let choice := afterReasoner settled override
  let plan ← executionPlan services.reading trigger choice.decisionType (targetRollout trigger)
  let decision : RemediationDecision :=
    { decisionType := choice.decisionType
      autonomyTier := flagTier facts choice.decisionType
      riskLevel := choice.riskLevel
      blastRadius :=
        if facts.multiServiceImpact then "multi_service" else "single_flag_single_service"
      confidence := choice.confidence
      executionPlan := plan }
  let reviewed ← applyScenarioAnalysis services.reading trigger analysis (targetRollout trigger)
    decision
  reviewed.validated

end OrbitalMesh.Decision
