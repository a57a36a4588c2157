import OrbitalMesh.Decision.FeatureFlags

/-!
# Reductions of a rollout

The ladder for feature flags, the open incidents after it, and the escalation reasoner may
all choose to reduce a rollout or to disable a flag.  What the rollout is reduced to is
decided at the end, by a rule over the current rollout alone.
-/

namespace OrbitalMesh.Decision

def planParameters (plan : Dict) : Dict := ((plan.get? "parameters").bind Json.asObj?).getD []

/-- The plan names a flag, and its rollout is smaller than the current one. -/
structure RolloutReduced (trigger : Trigger) (decision : RemediationDecision) : Prop where
  flagKey : ∃ key, (planParameters decision.executionPlan).get? "flag_key" = some (.str key) ∧
    key ≠ ""
  rollout : ∃ current target, trigger.currentRolloutPct = some current ∧
    (planParameters decision.executionPlan).get? "rollout_pct" = some (.int target) ∧
    target < current

def FlagNamed (trigger : Trigger) : Prop := ∃ key, trigger.flagKey = some key ∧ key ≠ ""

variable {decision : RemediationDecision} {trigger : Trigger} {analysis : Option ScenarioAnalysis}

theorem rolloutReduced_iff {target : Int}
    (h : decision.executionPlan = rolloutPlan trigger target) :
    RolloutReduced trigger decision ↔
      FlagNamed trigger ∧
        ∃ current, trigger.currentRolloutPct = some current ∧ target < current := by
  have hkey : (planParameters decision.executionPlan).get? "flag_key" =
      some (textOrNull trigger.flagKey) := by rw [h]; rfl
  have hrollout : (planParameters decision.executionPlan).get? "rollout_pct" =
      some (.int target) := by rw [h]; rfl
  constructor
  · rintro ⟨⟨key, hfound, hne⟩, current, target', hcurrent, hfound', hlt⟩
    rw [hkey] at hfound
    rw [hrollout] at hfound'
    obtain rfl := Json.int.inj (Option.some.inj hfound')
    refine ⟨⟨key, ?_, hne⟩, current, hcurrent, hlt⟩
    cases hflag : trigger.flagKey with
    | none =>
      rw [hflag] at hfound
      cases hfound
    | some own =>
      rw [hflag] at hfound
      rw [← Json.str.inj (Option.some.inj hfound)]
  · rintro ⟨⟨key, hflag, hne⟩, current, hcurrent, hlt⟩
    exact ⟨⟨key, by rw [hkey, hflag]; rfl, hne⟩, current, target, hcurrent, hrollout, hlt⟩

theorem applyScenarioAnalysis_plan {reading : TextReading} {targetRollout : Int}
    {after : RemediationDecision}
    (h : applyScenarioAnalysis reading trigger analysis targetRollout decision = .ok after)
    (htype : after.decisionType ≠ "escalate") :
    after.decisionType = decision.decisionType ∧ after.executionPlan = decision.executionPlan := by
  cases analysis with
  | none =>
    cases h
    exact ⟨rfl, rfl⟩
  | some analysis =>
    obtain ⟨choice, hchoice, hafter⟩ := bind_ok h
    obtain rfl := Except.ok.inj hafter
    unfold ScenarioAnalysis.choice at hchoice
    split at hchoice
    · obtain ⟨plan, -, hpair⟩ := bind_ok hchoice
      obtain rfl := Except.ok.inj hpair
      exact absurd rfl htype
    · obtain rfl := Except.ok.inj hchoice
      exact ⟨rfl, rfl⟩

theorem decideFeatureFlag_plan {services : FlagServices}
    (h : decideFeatureFlag services trigger analysis = .ok decision)
    (htype : decision.decisionType ≠ "escalate") :
    executionPlan services.reading trigger decision.decisionType (targetRollout trigger) =
      .ok decision.executionPlan := by
  simp only [decideFeatureFlag, Except.bind_ok_iff] at h
  obtain ⟨facts, -, climbed, -, confidence, -, override, -, plan, hplan, reviewed, hreviewed,
    hchecked⟩ := h
  have heq := RemediationDecision.validated_eq hchecked
  rw [heq] at htype ⊢
  obtain ⟨hsame, hplan'⟩ := applyScenarioAnalysis_plan hreviewed htype
  rw [hsame, hplan']
  exact hplan

/-- **When a reduction reduces**: exactly where the flag is named and was rolled out, and, if it
is not disabled, was not at ten already. -/
theorem rollout_reduced_iff {services : FlagServices} {trigger : Trigger}
    {analysis : Option ScenarioAnalysis} {decision : RemediationDecision}
    (h : decideFeatureFlag services trigger analysis = .ok decision) :
    (decision.decisionType = "disable_flag" →
      (RolloutReduced trigger decision ↔
        FlagNamed trigger ∧ ∃ current, trigger.currentRolloutPct = some current ∧ 0 < current)) ∧
    (decision.decisionType = "reduce_rollout" →
      (RolloutReduced trigger decision ↔
        FlagNamed trigger ∧
          ∃ current, trigger.currentRolloutPct = some current ∧ 0 < current ∧ current ≠ 10)) := by
  constructor
  · intro htype
    have hplan := decideFeatureFlag_plan h (by rw [htype]; decide)
    rw [htype] at hplan
    exact rolloutReduced_iff (Except.ok.inj hplan).symm
  · intro htype
    have hplan := decideFeatureFlag_plan h (by rw [htype]; decide)
    rw [htype] at hplan
    rw [rolloutReduced_iff (Except.ok.inj hplan).symm]
    apply and_congr_right'
    apply exists_congr
    intro current
    apply and_congr_right
    intro hcurrent
    simp only [targetRollout, hcurrent, Option.getD_some]
    split <;> omega

def slowFlag (rollout : Int) : Trigger where
  triggerId := "trg_1"
  triggerType := "feature_flag_performance_regression"
  triggeredAt := "2026-07-12T16:00:00Z"
  environment := "production"
  service := "search"
  endpoint := "/search"
  flagKey := some "semantic_search"
  currentRolloutPct := some rollout
  comparisonWindow := none
  segment := [("customer_tier", .str "standard")]
  metrics := [("baseline_p95_latency_ms", .int 200), ("observed_p95_latency_ms", .int 260),
    ("baseline_error_rate", .float false 1 (-2)), ("observed_error_rate", .float false 1 (-2)),
    ("sample_size", .int 1000)]
  relatedContext := []

def bareServices : FlagServices where
  reading := ⟨fun _ => none, fun _ => none⟩
  historicalSuccessRate _ := none
  reasoner := none

def decidedRollout (rollout : Int) : Option (String × Option Json) :=
  (decideFeatureFlag bareServices (slowFlag rollout) none).toOption.map fun decision =>
    (decision.decisionType, (planParameters decision.executionPlan).get? "rollout_pct")

theorem exists_decided {rollout : Int} {type : String} {target : Option Json}
    (h : decidedRollout rollout = some (type, target)) :
    ∃ decision, decideFeatureFlag bareServices (slowFlag rollout) none = .ok decision ∧
      decision.decisionType = type ∧
      (planParameters decision.executionPlan).get? "rollout_pct" = target := by
  unfold decidedRollout at h
  cases hdecided : decideFeatureFlag bareServices (slowFlag rollout) none with
  | error e =>
    rw [hdecided] at h
    cases h
  | ok decision =>
    rw [hdecided] at h
    obtain ⟨htype, htarget⟩ := Prod.mk.inj (Option.some.inj h)
    exact ⟨decision, rfl, htype, htarget⟩

theorem rollout_reduced_sample :
    ∃ decision, decideFeatureFlag bareServices (slowFlag 50) none = .ok decision ∧
      decision.decisionType = "reduce_rollout" ∧ RolloutReduced (slowFlag 50) decision := by
  obtain ⟨decision, hdecided, htype, -⟩ := exists_decided
    (by decide +kernel : decidedRollout 50 = some ("reduce_rollout", some (.int 10)))
  refine ⟨decision, hdecided, htype, ((rollout_reduced_iff hdecided).2 htype).mpr ?_⟩
  exact ⟨⟨"semantic_search", rfl, by decide⟩, 50, rfl, by decide, by decide⟩

/-- **Ten per cent stay ten.**  The rollout is reduced to what it is. -/
theorem ten_per_cent_stay :
    ∃ decision, decideFeatureFlag bareServices (slowFlag 10) none = .ok decision ∧
      decision.decisionType = "reduce_rollout" ∧
      (planParameters decision.executionPlan).get? "rollout_pct" = some (.int 10) ∧
      ¬ RolloutReduced (slowFlag 10) decision := by
  obtain ⟨decision, hdecided, htype, htarget⟩ := exists_decided
    (by decide +kernel : decidedRollout 10 = some ("reduce_rollout", some (.int 10)))
  refine ⟨decision, hdecided, htype, htarget, ?_⟩
  rintro ⟨-, current, target, hcurrent, hfound, hlt⟩
  rw [htarget] at hfound
  obtain rfl := Json.int.inj (Option.some.inj hfound)
  obtain rfl := Option.some.inj hcurrent
  omega

end OrbitalMesh.Decision
