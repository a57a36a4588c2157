import OrbitalMesh.Base.Text
import OrbitalMesh.Decision.Trigger

/-!
# Advice on a decision

A rule ladder decides first.  After it an escalation reasoner may be asked, and a
scenario analysis may tighten what came out.  Both ladders, the one for feature
flags and the one for Kubernetes, share what is defined here.
-/

namespace OrbitalMesh.Decision

/-- The members of `ReasoningResult` that are read. -/
structure ReasoningResult where
  suggestedAction : String
  confidence : Binary64

def llmAllowedActions : List String :=
  ["reduce_rollout", "disable_flag", "restart_deployment", "rollback_deployment", "no_action"]

/-- `self.escalation_reasoner.reason(trigger)`, where there is a reasoner. -/
abbrev Reasoner := Option (Except PyError ReasoningResult)

def ReasoningResult.overrides (reasoning : ReasoningResult) (confidence : Binary64) : Bool :=
  confidence.lt reasoning.confidence && reasoning.suggestedAction != "escalate" &&
    llmAllowedActions.contains reasoning.suggestedAction

/-- What the reasoner puts in the place of the ladder's choice, if it is asked. -/
def askReasoner (reasoner : Reasoner) (decisionType : String) (confidence : Binary64) :
    Except PyError (Option ReasoningResult) :=
  match reasoner with
  | some answer =>
    if decisionType == "escalate" || confidence.lt 0.65 then do
      let reasoning ← answer
      return if reasoning.overrides confidence then some reasoning else none
    else .ok none
  | none => .ok none

/-- `round(min(count, most) * weight, 2)`. -/
def countFactor (count most : Int) (weight : Binary64) : Binary64 :=
  ((Binary64.nearest (min count most)).mul weight).roundTo 2

variable (reading : TextReading)

/-- `int(recovery.get(key, 0) or 0)`. -/
def recoveryCount (recovery : Dict) (key : String) :
    Except PyError Int :=
  pyInt reading (pyOr (getOr recovery key (.int 0)) (.int 0))

def countedFactor (count most : Int) (weight : Binary64) : List Binary64 :=
  if 0 < count then [countFactor count most weight] else []

/-- `_build_confidence_factors`, in the order in which they are summed up. -/
def buildConfidenceFactors (baseConfidence : Binary64)
    (similarPriorCases : Int) (flagCausalityConfidence : Json) (triggerSignals : List Json)
    (historicalSuccessRate : Option Binary64) (recovery : Dict) :
    Except PyError (List Binary64) := do
  let causality ← match flagCausalityConfidence with
    | .null => pure []
    | value => do
      let shifted := (← pyFloat reading value).sub 0.5
      pure [(((shifted.least 0.2).greatest (Binary64.neg 0.2)).mul 0.1).roundTo 2]
  let consensus := if 2 ≤ triggerSignals.length then [(0.01 : Binary64)] else []
  let history := match historicalSuccessRate with
    | some rate =>
      if Binary64.le 0.8 rate then [(0.02 : Binary64)]
      else if rate.lt 0.4 then [Binary64.neg 0.03]
      else []
    | none => []
  let corroborating ← recoveryCount reading recovery "corroborating_evidence_count"
  let activeMemory ← recoveryCount reading recovery "active_memory_count"
  let similarIncidents ← recoveryCount reading recovery "similar_incident_count"
  let relatedRuns ← recoveryCount reading recovery "related_run_count"
  return [baseConfidence.roundTo 2] ++ countedFactor similarPriorCases 3 0.01 ++ causality ++
    consensus ++ history ++ countedFactor corroborating 4 0.015 ++
    countedFactor activeMemory 3 0.01 ++ countedFactor similarIncidents 3 0.01 ++
    countedFactor relatedRuns 4 0.005

def confidenceFromFactors (factors : List Binary64) : Binary64 :=
  let total := factors.foldl Binary64.add (Binary64.finite 0)
  Binary64.greatest 0.5 ((total.roundTo 2).least 0.95)

/-- The members of `ScenarioAnalysis` that are read. -/
structure ScenarioAnalysis where
  suggestedDecisionType : String
  confidence : Binary64
  riskLevel : String
  autonomyTierHint : String
  requiredReviewReasons : List String

/-- A letter in lower case.  Of the letters outside ASCII only these two become
letters of ASCII. -/
def lowered (c : Char) : List Char :=
  if c = '\u212a' then ['k'] else if c = 'İ' then ['i', '\u0307'] else [c.toLower]

/-- `pattern in reason.strip().lower()`. -/
def mentions (reason pattern : String) : Bool :=
  decide (pattern.toList <:+: (pyStrip reason).toList.flatMap lowered)

def terminalReviewPatterns : List String :=
  ["recent rollback cooldown is active", "signal indicates multi-service impact",
   "signal indicates high business impact", "required execution credentials are unavailable",
   "cross-run correlation requires approval", "correlated failure type is",
   "unclassified trigger type"]

def recoverableReviewPatterns : List String :=
  ["conflicting signals are present", "historical success rate is weak for",
   "no source run event ids available for analysis provenance",
   "kubernetes trigger lacks error signatures"]

/-- `classify_review_reasons` finds a terminal or an unclassified reason. -/
def needsHuman (reviewReasons : List String) : Bool :=
  reviewReasons.any fun reason =>
    !isBlank reason &&
      (terminalReviewPatterns.any (mentions reason) ||
        !recoverableReviewPatterns.any (mentions reason))

namespace ScenarioAnalysis

variable (analysis : ScenarioAnalysis)

def asksForReview : Bool :=
  ["approval_required", "escalated"].contains analysis.autonomyTierHint ||
    !analysis.requiredReviewReasons.isEmpty

def escalates : Bool :=
  !analysis.requiredReviewReasons.isEmpty && analysis.suggestedDecisionType == "escalate" &&
    needsHuman analysis.requiredReviewReasons

def tier (autonomyTier : String) : String :=
  if ["approval_required", "escalated"].contains analysis.autonomyTierHint then
    analysis.autonomyTierHint
  else if !analysis.requiredReviewReasons.isEmpty && autonomyTier == "autonomous" then
    "approval_required"
  else autonomyTier

def risk (riskLevel : String) : String :=
  if ["medium", "high"].contains analysis.riskLevel &&
      (riskLevel == "low" || analysis.riskLevel == "high") then analysis.riskLevel
  else riskLevel

def confidenceAfter (confidence : Binary64) : Binary64 :=
  let own := if analysis.confidence = .finite 0 then confidence else analysis.confidence
  if needsHuman analysis.requiredReviewReasons then (confidence.least own).least 0.74
  else (confidence.greatest own).least 0.95

def choice (reading : TextReading) (trigger : Trigger)
    (targetRollout : Int) (decision : RemediationDecision) : Except PyError (String × Dict) :=
  if analysis.escalates then do
    let plan ← executionPlan reading trigger "escalate" targetRollout
    return ("escalate", plan)
  else .ok (decision.decisionType, decision.executionPlan)

end ScenarioAnalysis

def applyScenarioAnalysis (trigger : Trigger)
    (analysis : Option ScenarioAnalysis) (targetRollout : Int) (decision : RemediationDecision) :
    Except PyError RemediationDecision :=
  match analysis with
  | none => .ok decision
  | some analysis => do
    let choice ← analysis.choice reading trigger targetRollout decision
    return { decision with
      decisionType := choice.1
      executionPlan := choice.2
      autonomyTier := analysis.tier decision.autonomyTier
      riskLevel := analysis.risk decision.riskLevel
      confidence := analysis.confidenceAfter decision.confidence }

def asksForReview (analysis : Option ScenarioAnalysis) : Bool :=
  analysis.any ScenarioAnalysis.asksForReview

theorem applyScenarioAnalysis_tightens {reading : TextReading} {trigger : Trigger}
    {analysis : Option ScenarioAnalysis} {targetRollout : Int}
    {decision after : RemediationDecision}
    (h : applyScenarioAnalysis reading trigger analysis targetRollout decision = .ok after) :
    if asksForReview analysis then after.autonomyTier ≠ "autonomous"
    else after.autonomyTier = decision.autonomyTier ∧
      after.decisionType = decision.decisionType := by
  cases analysis with
  | none =>
    cases h
    exact ⟨rfl, rfl⟩
  | some analysis =>
    obtain ⟨choice, hchoice, h⟩ := bind_ok h
    cases h
    simp only [asksForReview, Option.any_some, ScenarioAnalysis.asksForReview,
      ScenarioAnalysis.tier]
    by_cases hhint : ["approval_required", "escalated"].contains analysis.autonomyTierHint = true
    · simp only [hhint, Bool.true_or, if_true]
      rintro hauto
      rw [hauto] at hhint
      exact absurd hhint (by decide)
    · simp only [hhint, Bool.false_or]
      by_cases hreasons : analysis.requiredReviewReasons.isEmpty = true
      · have hescalates : analysis.escalates = false := by
          simp [ScenarioAnalysis.escalates, hreasons]
        rw [ScenarioAnalysis.choice, hescalates] at hchoice
        cases hchoice
        simp [hreasons]
      · by_cases htier : decision.autonomyTier = "autonomous"
        · simp [hreasons, htier]
        · simp [hreasons, htier]

end OrbitalMesh.Decision
