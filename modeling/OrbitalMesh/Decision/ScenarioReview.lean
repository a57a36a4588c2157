import OrbitalMesh.Decision.Kubernetes

/-!
# A scenario analysis over a decision

`_apply_scenario_analysis` takes an analysis as a dictionary, with values of any kind, and
adjusts type, plan, summary, tier and risk of a decision by conditions that do not look at
each other.  `_decide_kubernetes` adjusts the tier once more where failures are correlated.
-/

namespace OrbitalMesh.Decision

structure SummarisedDecision extends RemediationDecision where
  summary : String

/-- `", ".join(value)`. -/
def joined (value : Json) : Except PyError String :=
  match value with
  | .arr _ | .obj _ | .str _ => do
    let items ← pyList value
    requireTexts items
    return ", ".intercalate (items.map Json.asStr)
  | _ => typeError "can only join an iterable"

variable (trigger : Trigger)

/-- `_summary(trigger, "escalate", target_rollout)`. -/
def escalationSummary : Except PyError String :=
  if trigger.triggerType = "reth_node_degraded" then do
    let symptoms ← joined
      (getOr trigger.relatedContext "error_signatures" (.arr [.str "unknown"]))
    return "Escalate Reth node " ++ trigger.service ++ ": symptoms " ++ symptoms ++
      " require human review."
  else
    return "Escalate " ++ trigger.flagKey.getD "None" ++ " regression on " ++ trigger.service ++
      " for human review due to conflicting signals or elevated business impact."

/-- A value that is looked up in a set of texts; what is no text is in none of them, and what
cannot be hashed cannot be looked up. -/
def lookedUp (value : Json) : Except PyError String :=
  match value with
  | .str text => .ok text
  | .arr _ => typeError "unhashable type: 'list'"
  | .obj _ => typeError "unhashable type: 'dict'"
  | _ => .ok ""

variable (reading : TextReading)

/-- `float(analysis.get("confidence", decision.confidence) or decision.confidence)`. -/
def ownConfidence (given : Dict) (confidence : Binary64) :
    Except PyError Binary64 :=
  match given.get? "confidence" with
  | none => .ok confidence
  | some value => if truthy value then pyFloat reading value else .ok confidence

/-- What `_apply_scenario_analysis` reads of an analysis.  A reason that is no text ends it
when the reasons are joined. -/
def readAnalysis (given : Dict) (confidence : Binary64) :
    Except PyError ScenarioAnalysis := do
  let reasons ← pyList (pyOr (getOr given "required_review_reasons" .null) (.arr []))
  let confidence ← ownConfidence reading given confidence
  let autonomyTierHint ← lookedUp (getOr given "autonomy_tier_hint" .null)
  let riskLevel ← lookedUp (getOr given "risk_level" .null)
  let _ ← pyList (pyOr (getOr given "evidence_refs" .null) (.arr []))
  requireTexts reasons
  return {
    suggestedDecisionType := (getOr given "suggested_decision_type" .null).asStr
    confidence, riskLevel, autonomyTierHint
    requiredReviewReasons := reasons.map Json.asStr }

def readGiven (given : Option Dict) (confidence : Binary64) :
    Except PyError (Option ScenarioAnalysis) :=
  match given with
  | none => .ok none
  | some given => do
    let analysis ← readAnalysis reading given confidence
    return some analysis

def escalatesGiven (analysis : Option ScenarioAnalysis) : Bool :=
  analysis.any ScenarioAnalysis.escalates

def summaryAfter (analysis : Option ScenarioAnalysis) (summary : String) :
    Except PyError String :=
  if escalatesGiven analysis then escalationSummary trigger else .ok summary

/-- `_apply_scenario_analysis`, on a dictionary and with the summary. -/
def applyGiven (trigger : Trigger) (given : Option Dict)
    (targetRollout : Int) (decision : SummarisedDecision) :
    Except PyError SummarisedDecision := do
  let analysis ← readGiven reading given decision.confidence
  let after ← applyScenarioAnalysis reading trigger analysis targetRollout
    decision.toRemediationDecision
  let summary ← summaryAfter trigger analysis decision.summary
  return { after with summary }

/-- The adjustment of the tier in `_decide_kubernetes` where failures are correlated. -/
def adjustCorrelated (facts : KubernetesFacts) (decision : SummarisedDecision) :
    SummarisedDecision :=
  { decision with autonomyTier := correlatedTier facts decision.autonomyTier }

def tierRank : String → Nat
  | "approval_required" => 1
  | "escalated" => 2
  | _ => 0

def riskRank : String → Nat
  | "low" => 0
  | "high" => 2
  | _ => 1

/-- An escalation opens an incident, is escalated, and says so. -/
structure Coherent (decision : SummarisedDecision) : Prop where
  action : decision.executionPlan.get? "action" = some (.str "open_incident")
  tier : decision.autonomyTier = "escalated"
  summary : escalationSummary trigger = .ok decision.summary

def Consistent (decision : SummarisedDecision) : Prop :=
  decision.decisionType = "escalate" → Coherent trigger decision

/-- A step makes a decision at most more conservative, and leaves it consistent: one that was,
and one that it has rewritten. -/
structure Stricter (rewritten : Bool) (before after : SummarisedDecision) :
    Prop where
  tier : tierRank before.autonomyTier ≤ tierRank after.autonomyTier
  risk : riskRank before.riskLevel ≤ riskRank after.riskLevel
  decisionType : before.decisionType = "escalate" → after.decisionType = "escalate"
  consistent : Consistent trigger before ∨ rewritten = true → Consistent trigger after

namespace ScenarioAnalysis

variable (analysis : ScenarioAnalysis)

def hints : Bool := ["approval_required", "escalated"].contains analysis.autonomyTierHint

theorem riskRank_le (riskLevel : String) :
    riskRank riskLevel ≤ riskRank (analysis.risk riskLevel) := by
  unfold risk
  split
  · next h =>
    simp only [Bool.and_eq_true, Bool.or_eq_true, beq_iff_eq] at h
    rcases h.2 with hlow | hhigh
    · simp [hlow, riskRank]
    · rw [hhigh]
      simp only [riskRank]
      split <;> omega
  · exact le_rfl

theorem tier_of_hint (h : analysis.hints = true) (autonomyTier : String) :
    analysis.tier autonomyTier = analysis.autonomyTierHint := by
  unfold hints at h
  rw [tier, if_pos h]

/-- Where the hint is not followed, the tier is lowered by nothing. -/
theorem tierRank_le (h : analysis.hints = false) (autonomyTier : String) :
    tierRank autonomyTier ≤ tierRank (analysis.tier autonomyTier) := by
  unfold tier
  rw [if_neg (by rw [← hints, h]; decide)]
  split
  · next hautonomous =>
    simp only [Bool.and_eq_true, beq_iff_eq] at hautonomous
    simp [hautonomous.2, tierRank]
  · exact le_rfl

end ScenarioAnalysis

theorem tierRank_le_two (autonomyTier : String) : tierRank autonomyTier ≤ 2 := by
  unfold tierRank
  split <;> omega

theorem tierRank_eq_two_iff {autonomyTier : String} :
    tierRank autonomyTier = 2 ↔ autonomyTier = "escalated" := by
  unfold tierRank
  split
  · simp
  · simp
  · next hother => simpa using hother

variable (analysis : ScenarioAnalysis)

/-- The hint does not take back an escalation, and an escalation by the analysis is one of
the tier, too. -/
structure ReviewFits (autonomyTier : String) : Prop where
  hint : analysis.autonomyTierHint = "approval_required" →
    autonomyTier ≠ "escalated" ∧ analysis.escalates = false
  escalation : analysis.escalates = true → analysis.autonomyTierHint ≠ "escalated" →
    autonomyTier = "escalated"

theorem ScenarioAnalysis.tier_escalated_iff (autonomyTier : String) :
    analysis.tier autonomyTier = "escalated" ↔
      analysis.autonomyTierHint = "escalated" ∨
        (analysis.autonomyTierHint ≠ "approval_required" ∧ autonomyTier = "escalated") := by
  by_cases hhints : analysis.hints = true
  · rw [analysis.tier_of_hint hhints]
    simp only [hints, List.contains_iff_mem, List.mem_cons, List.not_mem_nil, or_false] at hhints
    rcases hhints with hhint | hhint <;> simp [hhint]
  · have hnone : ¬ analysis.autonomyTierHint = "approval_required" ∧
        ¬ analysis.autonomyTierHint = "escalated" := by
      simpa [hints] using hhints
    unfold tier
    rw [if_neg (by simpa [hints] using hhints)]
    split
    · next hautonomous =>
      simp only [Bool.and_eq_true, beq_iff_eq] at hautonomous
      simp [hnone, hautonomous.2]
    · simp [hnone]

theorem applyGiven_some {reading : TextReading} {trigger : Trigger} {given : Option Dict}
    {targetRollout : Int} {decision after : SummarisedDecision} {analysis : ScenarioAnalysis}
    (hread : readGiven reading given decision.confidence = .ok (some analysis))
    (happly : applyGiven reading trigger given targetRollout decision = .ok after) :
    after.autonomyTier = analysis.tier decision.autonomyTier ∧
      after.riskLevel = analysis.risk decision.riskLevel ∧
      if analysis.escalates then
        after.decisionType = "escalate" ∧
          after.executionPlan.get? "action" = some (.str "open_incident") ∧
          escalationSummary trigger = .ok after.summary
      else after.decisionType = decision.decisionType ∧
        after.executionPlan = decision.executionPlan ∧ after.summary = decision.summary := by
  simp only [applyGiven, hread, ok_bind, applyScenarioAnalysis, Except.bind_ok_iff] at happly
  obtain ⟨reviewed, ⟨choice, hchoice, hreviewed⟩, summary, hsummary, hafter⟩ := happly
  obtain rfl := Except.ok.inj hreviewed
  obtain rfl := Except.ok.inj hafter
  refine ⟨rfl, rfl, ?_⟩
  have hgiven : escalatesGiven (some analysis) = analysis.escalates := rfl
  unfold summaryAfter at hsummary
  by_cases hescalates : analysis.escalates = true
  · rw [if_pos (hgiven.trans hescalates)] at hsummary
    rw [if_pos hescalates]
    rw [ScenarioAnalysis.choice, if_pos hescalates] at hchoice
    obtain ⟨plan, hplan, hpair⟩ := bind_ok hchoice
    obtain rfl := Except.ok.inj hpair
    obtain rfl := Except.ok.inj hplan
    exact ⟨rfl, rfl, hsummary⟩
  · rw [if_neg (by rw [hgiven]; exact hescalates)] at hsummary
    rw [if_neg hescalates]
    rw [ScenarioAnalysis.choice, if_neg hescalates] at hchoice
    obtain rfl := Except.ok.inj hchoice
    exact ⟨rfl, rfl, (Except.ok.inj hsummary).symm⟩

theorem Stricter.refl (decision : SummarisedDecision) : Stricter trigger false decision decision :=
  ⟨le_rfl, le_rfl, id, fun h => h.elim id fun hfalse => absurd hfalse (by decide)⟩

theorem ScenarioAnalysis.tierRank_le_of_kept {tier : String}
    (hkept : tier = "escalated" → analysis.tier tier = "escalated") :
    tierRank tier ≤ tierRank (analysis.tier tier) := by
  by_cases hhints : analysis.hints = true
  · by_cases hold : tier = "escalated"
    · rw [hkept hold, hold]
    · have hlow : tierRank tier ≤ 1 := by
        have htwo := tierRank_le_two tier
        have hne : tierRank tier ≠ 2 := fun heq => hold (tierRank_eq_two_iff.mp heq)
        omega
      rw [analysis.tier_of_hint hhints]
      simp only [ScenarioAnalysis.hints, List.contains_iff_mem, List.mem_cons,
        List.not_mem_nil, or_false] at hhints
      rcases hhints with hhint | hhint
      · rw [hhint]
        exact hlow
      · rw [hhint]
        exact hlow.trans (by decide)
  · exact analysis.tierRank_le (by simpa using hhints) tier

section

variable {reading : TextReading} {trigger : Trigger} {given : Option Dict} {targetRollout : Int}
  {decision after : SummarisedDecision} {analysis : ScenarioAnalysis}

section

variable (hread : readGiven reading given decision.confidence = .ok (some analysis))

include hread

theorem reviewFits_of_stricter
    (happly : applyGiven reading trigger given targetRollout decision = .ok after)
    (h : Stricter trigger analysis.escalates decision after) :
    ReviewFits analysis decision.autonomyTier := by
  obtain ⟨htier, -, hrest⟩ := applyGiven_some hread happly
  have hescalated := analysis.tier_escalated_iff decision.autonomyTier
  have hkept : decision.autonomyTier = "escalated" →
      analysis.tier decision.autonomyTier = "escalated" := by
    intro hold
    have hle := h.tier
    rw [hold, htier] at hle
    have htwo := tierRank_le_two (analysis.tier decision.autonomyTier)
    exact tierRank_eq_two_iff.mp (le_antisymm htwo hle)
  have hturned (hescalates : analysis.escalates = true) :
      analysis.tier decision.autonomyTier = "escalated" := by
    rw [if_pos hescalates] at hrest
    rw [← htier]
    exact (h.consistent (.inr hescalates) hrest.1).tier
  constructor
  · intro hhint
    have hnot : analysis.tier decision.autonomyTier ≠ "escalated" := by
      rw [Ne, hescalated]
      simp [hhint]
    exact ⟨fun hold => hnot (hkept hold),
      Bool.eq_false_iff.mpr fun hescalates => hnot (hturned hescalates)⟩
  · intro hescalates hhint
    exact ((hescalated.mp (hturned hescalates)).resolve_left hhint).2

theorem stricter_iff_fits
    (happly : applyGiven reading trigger given targetRollout decision = .ok after) :
    Stricter trigger analysis.escalates decision after ↔
      ReviewFits analysis decision.autonomyTier := by
  obtain ⟨htier, hrisk, hrest⟩ := applyGiven_some hread happly
  have hescalated := analysis.tier_escalated_iff decision.autonomyTier
  constructor
  · exact reviewFits_of_stricter hread happly
  · intro h
    have hkept (hold : decision.autonomyTier = "escalated") :
        analysis.tier decision.autonomyTier = "escalated" :=
      hescalated.mpr (.inr ⟨fun hhint => (h.hint hhint).1 hold, hold⟩)
    refine ⟨?_, ?_, ?_, ?_⟩
    · rw [htier]
      exact analysis.tierRank_le_of_kept hkept
    · rw [hrisk]
      exact analysis.riskRank_le decision.riskLevel
    · intro htype
      split at hrest
      · exact hrest.1
      · rw [hrest.1, htype]
    · intro hgiven htype
      by_cases hescalates : analysis.escalates = true
      · rw [if_pos hescalates] at hrest
        refine ⟨hrest.2.1, ?_, hrest.2.2⟩
        rw [htier, hescalated]
        by_cases hhint : analysis.autonomyTierHint = "escalated"
        · exact .inl hhint
        · refine .inr ⟨fun happroval => ?_, h.escalation hescalates hhint⟩
          rw [(h.hint happroval).2] at hescalates
          cases hescalates
      · rw [if_neg hescalates] at hrest
        obtain ⟨hsame, hplan, hsummary⟩ := hrest
        have hbefore := hgiven.resolve_right hescalates (hsame ▸ htype)
        exact ⟨hplan ▸ hbefore.action, by rw [htier]; exact hkept hbefore.tier,
          hsummary ▸ hbefore.summary⟩

end

end

theorem adjustCorrelated_stricter_iff (facts : KubernetesFacts)
    (decision : SummarisedDecision) :
    Stricter trigger false decision (adjustCorrelated facts decision) ↔
      ¬ (widespread facts = true ∧ decision.autonomyTier = "escalated") := by
  by_cases hwide : widespread facts = true
  · have hafter : (adjustCorrelated facts decision).autonomyTier = "approval_required" := by
      simp [adjustCorrelated, correlatedTier, hwide]
    constructor
    · rintro h ⟨-, hold⟩
      have hle := h.tier
      rw [hafter, hold] at hle
      exact absurd hle (by decide)
    · intro h
      have hold : decision.autonomyTier ≠ "escalated" := fun hold => h ⟨hwide, hold⟩
      have hlow : tierRank decision.autonomyTier ≤ 1 := by
        have htwo := tierRank_le_two decision.autonomyTier
        have hne : tierRank decision.autonomyTier ≠ 2 := fun heq =>
          hold (tierRank_eq_two_iff.mp heq)
        omega
      refine ⟨by rw [hafter]; exact hlow, le_rfl, id, ?_⟩
      intro hgiven htype
      have hbefore := hgiven.resolve_right (by decide) htype
      exact absurd hbefore.tier hold
  · have hsame : adjustCorrelated facts decision = decision := by
      simp [adjustCorrelated, correlatedTier, hwide]
    rw [hsame]
    simp [hwide, Stricter.refl]

/-- **When a review only makes a decision stricter**: exactly if it takes back no escalation, the
decision's or its own. -/
theorem review_stricter_iff {reading : TextReading} {trigger : Trigger} {given : Option Dict}
    {targetRollout : Int} {decision after : SummarisedDecision} {analysis : Option ScenarioAnalysis}
    (hread : readGiven reading given decision.confidence = .ok analysis)
    (happly : applyGiven reading trigger given targetRollout decision = .ok after)
    (facts : KubernetesFacts) :
    (Stricter trigger (escalatesGiven analysis) decision after ↔
      ∀ found, analysis = some found → ReviewFits found decision.autonomyTier) ∧
    (Stricter trigger false decision (adjustCorrelated facts decision) ↔
      ¬ (widespread facts = true ∧ decision.autonomyTier = "escalated")) := by
  refine ⟨?_, adjustCorrelated_stricter_iff trigger facts decision⟩
  cases analysis with
  | none =>
    have hsame : after = decision := by
      simp only [applyGiven, hread, ok_bind, applyScenarioAnalysis, summaryAfter,
        escalatesGiven, Option.any_none] at happly
      exact (Except.ok.inj happly).symm
    rw [hsame]
    exact ⟨fun _ found hfound => (by cases hfound), fun _ => Stricter.refl trigger decision⟩
  | some found =>
    rw [escalatesGiven, Option.any_some, stricter_iff_fits hread happly]
    exact ⟨fun h other hother => Option.some.inj hother ▸ h, fun h => h found rfl⟩

def failingTrigger : Trigger where
  triggerId := "trg_1"
  triggerType := "kubernetes_deployment_unhealthy"
  triggeredAt := "2026-07-12T16:00:00Z"
  environment := "production"
  service := "checkout"
  endpoint := "deployment/checkout"
  flagKey := none
  currentRolloutPct := none
  comparisonWindow := none
  segment := []
  metrics := []
  relatedContext := []

def escalatedDecision : SummarisedDecision where
  decisionType := "escalate"
  autonomyTier := "escalated"
  riskLevel := "high"
  blastRadius := "single_deployment"
  confidence := .finite (3 / 5)
  executionPlan := planOf "incident_service" "open_incident" [] ""
  summary := "Escalate None regression on checkout for human review due to conflicting signals " ++
    "or elevated business impact."

def hinting (tier : String) : Dict := [("autonomy_tier_hint", .str tier)]

theorem readAnalysis_hinting (tier : String) :
    readGiven ⟨fun _ => none, fun _ => none⟩ (some (hinting tier)) (.finite (3 / 5)) =
      .ok (some ⟨"", .finite (3 / 5), "", tier, []⟩) := rfl

def correlatedFacts (type : String) : KubernetesFacts where
  errorSignatures := []
  eventReasons := []
  rolloutStatus := "degraded"
  codeRemediation := false
  repeatedRollback := false
  deployCorrelated := false
  correlation := [("type", .str type)]

/-- A hint at the same tier, and failures that are not correlated, leave the decision as
strict as it was. -/
theorem review_stricter_sample :
    ∃ after, applyGiven ⟨fun _ => none, fun _ => none⟩ failingTrigger
        (some (hinting "escalated")) 0 escalatedDecision = .ok after ∧
      Stricter failingTrigger false escalatedDecision after ∧
      Stricter failingTrigger false escalatedDecision
        (adjustCorrelated (correlatedFacts "isolated") escalatedDecision) := by
  obtain ⟨after, hafter⟩ : ∃ after, applyGiven ⟨fun _ => none, fun _ => none⟩ failingTrigger
      (some (hinting "escalated")) 0 escalatedDecision = .ok after := ⟨_, rfl⟩
  have hboth := review_stricter_iff (readAnalysis_hinting "escalated") hafter
    (correlatedFacts "isolated")
  refine ⟨after, hafter, hboth.1.mpr ?_, hboth.2.mpr (by decide)⟩
  intro found hfound
  obtain rfl := Option.some.inj hfound
  exact ⟨fun hhint => absurd hhint (by decide), fun hescalates => absurd hescalates (by decide)⟩

/-- **An escalation is taken back**: its tier is lowered, its type and its plan stay. -/
theorem escalation_is_taken_back :
    (∃ after, applyGiven ⟨fun _ => none, fun _ => none⟩ failingTrigger
        (some (hinting "approval_required")) 0 escalatedDecision = .ok after ∧
      after.decisionType = "escalate" ∧ after.autonomyTier = "approval_required" ∧
      ¬ Stricter failingTrigger false escalatedDecision after) ∧
    ¬ Stricter failingTrigger false escalatedDecision
      (adjustCorrelated (correlatedFacts "cascading") escalatedDecision) := by
  refine ⟨⟨_, rfl, rfl, rfl, ?_⟩, ?_⟩
  · intro h
    exact absurd h.tier (by decide)
  · intro h
    exact absurd h.tier (by decide)

end OrbitalMesh.Decision
