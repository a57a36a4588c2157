import OrbitalMesh.Decision.Kubernetes

/-!
# Advice and the guards of the ladders

Some rungs escalate because something concrete speaks against acting: a high
business impact, a conflict between flag and rollback, missing credentials; a
rollout that failed after a rollback, a crash loop without a deploy, a drift of the
configuration.  Advice comes after the ladders and cannot tell these rungs from the
one where nothing matched.
-/

namespace OrbitalMesh.Decision

def RemediationDecision.asksSomebody (decision : RemediationDecision) : Bool :=
  decision.decisionType == "escalate" || decision.autonomyTier != "autonomous"

def overruling (reasoner : Reasoner) (decisionType : String) (confidence : Binary64) :
    Option ReasoningResult :=
  match reasoner with
  | some (.ok reasoning) =>
    if (decisionType == "escalate" || confidence.lt 0.65) && reasoning.overrides confidence then
      some reasoning
    else none
  | _ => none

variable {decisionType action : String} {trigger : Trigger} {analysis : Option ScenarioAnalysis}
  {decision : RemediationDecision} {services : KubernetesServices}
  {reasoner : Reasoner} {confidence : Binary64} {override : Option ReasoningResult}
  {facts : FlagFacts}

theorem askReasoner_eq_overruling
    (h : askReasoner reasoner decisionType confidence = .ok override) :
    override = overruling reasoner decisionType confidence := by
  unfold askReasoner at h
  unfold overruling
  split at h
  · next answer =>
    split at h
    · next hasked =>
      obtain ⟨reasoning, rfl, h⟩ := bind_ok h
      cases h
      simp [hasked]
    · next hasked =>
      cases h
      cases answer with
      | error e => rfl
      | ok reasoning => simp [hasked]
  · cases h
    rfl

def flagGuarded (reading : TextReading) (trigger : Trigger) (facts : FlagFacts) : Bool :=
  match flagLadder reading trigger facts with
  | .ok (rung, climbed) => rung == .impactOrConflict || lacksCredentials facts climbed
  | .error _ => false

def flagSettled (services : FlagServices) (trigger : Trigger) (facts : FlagFacts) :
    Except PyError Choice := do
  let (_, climbed) ← flagLadder services.reading trigger facts
  let ladder := withCredentials facts climbed
  let confidence ← flagConfidence services trigger facts ladder
  return { ladder with confidence }

/-- The action that the reasoner takes alone, when nothing calls for an approval. -/
def flagActsAlone (services : FlagServices) (trigger : Trigger) (facts : FlagFacts) :
    Option String :=
  if facts.multiServiceImpact || facts.protectedTier || facts.repeatedRollback then none
  else match flagSettled services trigger facts with
    | .ok settled =>
      (overruling services.reasoner settled.decisionType settled.confidence).map
        (·.suggestedAction)
    | .error _ => none

theorem escalates_of_flagGuarded {reading : TextReading} {rung : FlagRung} {climbed : Choice}
    (hladder : flagLadder reading trigger facts = .ok (rung, climbed))
    (hguard : flagGuarded reading trigger facts = true) :
    (withCredentials facts climbed).decisionType = "escalate" := by
  simp only [flagGuarded, hladder, Bool.or_eq_true, beq_iff_eq] at hguard
  by_cases hlacks : lacksCredentials facts climbed = true
  · simp [withCredentials, hlacks]
  · obtain rfl := hguard.resolve_right hlacks
    obtain ⟨_, _, hrest⟩ := bind_ok hladder
    obtain ⟨choice, hchoice, hrest⟩ := bind_ok hrest
    cases hrest
    cases hchoice
    rfl

theorem decideFeatureFlag_spec {services : FlagServices}
    (h : decideFeatureFlag services trigger analysis = .ok decision) :
    ∃ facts rung climbed settled, flagFacts services.reading trigger = .ok facts ∧
      flagLadder services.reading trigger facts = .ok (rung, climbed) ∧
      flagSettled services trigger facts = .ok settled ∧
      settled.decisionType = (withCredentials facts climbed).decisionType ∧
      let choice := afterReasoner settled
        (overruling services.reasoner settled.decisionType settled.confidence)
      if asksForReview analysis then decision.autonomyTier ≠ "autonomous"
      else decision.autonomyTier = flagTier facts choice.decisionType ∧
        decision.decisionType = choice.decisionType := by
  obtain ⟨facts, hfacts, h⟩ := bind_ok h
  obtain ⟨⟨rung, climbed⟩, hladder, h⟩ := bind_ok h
  obtain ⟨confidence, hconfidence, h⟩ := bind_ok h
  obtain ⟨override, hoverride, h⟩ := bind_ok h
  obtain ⟨plan, -, h⟩ := bind_ok h
  obtain ⟨reviewed, hreviewed, h⟩ := bind_ok h
  obtain rfl := RemediationDecision.validated_eq h
  obtain rfl := askReasoner_eq_overruling hoverride
  refine ⟨facts, rung, climbed, { withCredentials facts climbed with confidence }, hfacts,
    hladder, ?_, rfl, applyScenarioAnalysis_tightens hreviewed⟩
  simp only [flagSettled, hladder, ok_bind, hconfidence]
  rfl

theorem overruling_spec {reasoning : ReasoningResult}
    (h : overruling reasoner decisionType confidence = some reasoning) :
    reasoning.suggestedAction ≠ "escalate" ∧
      reasoning.suggestedAction ∈ llmAllowedActions := by
  unfold overruling at h
  split at h
  · split at h
    · next hwins =>
      cases h
      simp only [ReasoningResult.overrides, Bool.and_eq_true, bne_iff_ne,
        List.contains_iff_mem] at hwins
      exact ⟨hwins.2.1.2, hwins.2.2⟩
    · cases h
  · cases h

/-- An action that advice may name changes the system unless it is no action. -/
theorem passive_iff_of_allowed (h : action ∈ allowedUpgrades) :
    passiveTypes.contains action = true ↔ action = "no_action" := by
  revert action
  decide

theorem allowedUpgrades_of_allowed (h : action ∈ llmAllowedActions) :
    action ∈ allowedUpgrades := List.mem_append_left _ h

theorem ne_escalate_of_allowed (h : action ∈ allowedUpgrades) : action ≠ "escalate" := by
  rintro rfl
  exact absurd h (by decide)

/-- Behind a guard somebody is asked exactly where advice does not act alone. -/
structure HeldBy (actsAlone : Option String) (asked : Bool) (decision : RemediationDecision) :
    Prop where
  asks : decision.asksSomebody = true ↔ asked = true ∨ actsAlone = none
  floor : decision.autonomousMutation = false ↔
    asked = true ∨ actsAlone = none ∨ actsAlone = some "no_action"

theorem heldBy_alone (hallowed : action ∈ allowedUpgrades)
    (htype : decision.decisionType = action) (htier : decision.autonomyTier = "autonomous") :
    HeldBy (some action) false decision := by
  have hne := ne_escalate_of_allowed hallowed
  constructor
  · simp [RemediationDecision.asksSomebody, htype, htier, hne]
  · simp only [RemediationDecision.autonomousMutation, RemediationDecision.mutating, htype, htier]
    simp [passive_iff_of_allowed hallowed, -List.contains_eq_mem]

theorem heldBy_asked {actsAlone : Option String} {asked : Bool}
    (h : asked = true ∨ actsAlone = none) (htier : decision.autonomyTier ≠ "autonomous") :
    HeldBy actsAlone asked decision := by
  constructor
  · simp [RemediationDecision.asksSomebody, htier, h]
  · simp only [RemediationDecision.autonomousMutation, beq_false_of_ne htier, Bool.false_and,
      true_iff]
    exact h.imp_right .inl

/-- **Guards on flags.** -/
theorem decideFeatureFlag_heldBy {services : FlagServices}
    (hfacts : flagFacts services.reading trigger = .ok facts)
    (hguard : flagGuarded services.reading trigger facts = true)
    (hdecided : decideFeatureFlag services trigger analysis = .ok decision) :
    HeldBy (flagActsAlone services trigger facts) (asksForReview analysis) decision := by
  obtain ⟨found, rung, climbed, settled, hfound, hladder, hsettled, htype, hafter⟩ :=
    decideFeatureFlag_spec hdecided
  obtain rfl : found = facts := by
    rw [hfacts] at hfound
    exact (Except.ok.inj hfound).symm
  rw [escalates_of_flagGuarded hladder hguard] at htype
  split at hafter
  · next hreview => exact heldBy_asked (.inl hreview) hafter
  · next hreview =>
    obtain ⟨htier, hchosen⟩ := hafter
    rw [Bool.not_eq_true] at hreview
    rw [hreview]
    cases hover : overruling services.reasoner settled.decisionType settled.confidence with
    | none =>
      rw [hover, afterReasoner, htype] at htier
      refine heldBy_asked (.inr ?_) (by simp [htier, flagTier])
      simp [flagActsAlone, hsettled, hover]
    | some reasoning =>
      obtain ⟨hne, hallowed⟩ := overruling_spec hover
      rw [hover] at htier hchosen
      simp only [afterReasoner] at htier hchosen
      rw [flagTier, if_neg (by simpa using hne)] at htier
      cases hmore : found.multiServiceImpact || found.protectedTier || found.repeatedRollback
        with
      | true =>
        rw [hmore] at htier
        exact heldBy_asked (.inr (by simp [flagActsAlone, hmore])) (by rw [htier]; decide)
      | false =>
        rw [hmore] at htier
        have halone :
            flagActsAlone services trigger found = some reasoning.suggestedAction := by
          simp [flagActsAlone, hmore, hsettled, hover]
        rw [halone]
        exact heldBy_alone (allowedUpgrades_of_allowed hallowed) hchosen htier

def kubernetesGuarded (facts : KubernetesFacts) : Bool := (kubernetesRung facts).guards

/-- The action that advice takes alone, unless there was a rollback before. -/
def actsAlone (repeatedRollback : Bool) (override : Option ReasoningResult)
    (top : Option RankedHypothesis) : Option String :=
  if repeatedRollback then none
  else match override, top with
    | some reasoning, _ => some reasoning.suggestedAction
    | none, some top => if top.fromReport then none else some top.recommendedAction
    | none, none => none

/-- The action that advice on a deployment takes alone. -/
def kubernetesActsAlone (services : KubernetesServices) (facts : KubernetesFacts) :
    Option String :=
  let ladder := (kubernetesRung facts).choice facts.repeatedRollback
  let upgraded := afterHypotheses facts.repeatedRollback services.hypotheses ladder
  actsAlone facts.repeatedRollback
    (overruling services.reasoner upgraded.decisionType upgraded.confidence)
    (upgrade? ladder.decisionType services.hypotheses)

theorem decideKubernetes_spec (h : decideKubernetes services trigger analysis = .ok decision) :
    ∃ facts, kubernetesFacts services.reading services.window trigger = .ok facts ∧
      let upgraded := afterHypotheses facts.repeatedRollback services.hypotheses
        ((kubernetesRung facts).choice facts.repeatedRollback)
      let choice := withOverride facts.repeatedRollback
        (overruling services.reasoner upgraded.decisionType upgraded.confidence) upgraded
      if asksForReview analysis then decision.autonomyTier ≠ "autonomous"
      else decision.autonomyTier = correlatedTier facts choice.autonomyTier ∧
        decision.decisionType = choice.decisionType := by
  obtain ⟨facts, hfacts, h⟩ := bind_ok h
  obtain ⟨⟨choice, override⟩, hchoice, h⟩ := bind_ok h
  obtain ⟨confidence, -, h⟩ := bind_ok h
  obtain ⟨_, -, h⟩ := bind_ok h
  obtain ⟨_, -, h⟩ := bind_ok h
  obtain ⟨plan, -, h⟩ := bind_ok h
  obtain ⟨reviewed, hreviewed, h⟩ := bind_ok h
  obtain rfl := RemediationDecision.validated_eq h
  obtain ⟨asked, hasked, hchoice⟩ := bind_ok hchoice
  cases hchoice
  obtain rfl := askReasoner_eq_overruling hasked
  exact ⟨facts, hfacts, applyScenarioAnalysis_tightens hreviewed⟩

theorem escalated_of_guards {rung : KubernetesRung} (h : rung.guards = true) (again : Bool) :
    (rung.choice again).autonomyTier = "escalated" := by
  cases rung <;> first | rfl | cases h

theorem upgrade?_spec {hypotheses : List RankedHypothesis} {top : RankedHypothesis}
    (h : upgrade? decisionType hypotheses = some top) :
    top.recommendedAction ∈ allowedUpgrades := by
  unfold upgrade? at h
  split at h
  · have hupgrades := (Option.filter_eq_some_iff.mp h).2
    simp only [RankedHypothesis.upgrades, Bool.and_eq_true, List.contains_iff_mem] at hupgrades
    exact hupgrades.2
  · cases h

theorem advised_heldBy {again : Bool} {top : Option RankedHypothesis} {ladder : TieredChoice}
    (hladder : ladder.autonomyTier = "escalated")
    (hoverride : ∀ reasoning, override = some reasoning →
      reasoning.suggestedAction ∈ allowedUpgrades)
    (htop : ∀ hypothesis, top = some hypothesis → hypothesis.recommendedAction ∈ allowedUpgrades)
    (htier : decision.autonomyTier =
      (withOverride again override (upgradedBy again top ladder)).autonomyTier)
    (htype : decision.decisionType =
      (withOverride again override (upgradedBy again top ladder)).decisionType) :
    HeldBy (actsAlone again override top) false decision := by
  cases again with
  | true =>
    refine heldBy_asked (.inr rfl) ?_
    rw [htier]
    cases override with
    | some reasoning => simp [withOverride, tierAfterRollback]
    | none =>
      cases top with
      | some hypothesis => simp [withOverride, upgradedBy, tierAfterRollback]
      | none => simp [withOverride, upgradedBy, hladder]
  | false =>
    cases override with
    | some reasoning => exact heldBy_alone (hoverride _ rfl) htype htier
    | none =>
      cases top with
      | none =>
        refine heldBy_asked (.inr rfl) ?_
        simp [htier, withOverride, upgradedBy, hladder]
      | some hypothesis =>
        cases hreport : hypothesis.fromReport with
        | true =>
          refine heldBy_asked (.inr (by simp [actsAlone, hreport])) ?_
          simp [htier, withOverride, upgradedBy, hreport, tierAfterRollback]
        | false =>
          have halone : actsAlone false none (some hypothesis) =
              some hypothesis.recommendedAction := by
            simp [actsAlone, hreport]
          rw [halone]
          refine heldBy_alone (htop _ rfl) htype ?_
          simp [htier, withOverride, upgradedBy, hreport, tierAfterRollback]

/-- **Escalations of deployments.** -/
theorem decideKubernetes_heldBy {facts : KubernetesFacts}
    (hfacts : kubernetesFacts services.reading services.window trigger = .ok facts)
    (hladder : ((kubernetesRung facts).choice facts.repeatedRollback).autonomyTier = "escalated")
    (hdecided : decideKubernetes services trigger analysis = .ok decision) :
    HeldBy (kubernetesActsAlone services facts) (asksForReview analysis || widespread facts)
      decision := by
  obtain ⟨found, hfound, hafter⟩ := decideKubernetes_spec hdecided
  obtain rfl : found = facts := by
    rw [hfacts] at hfound
    exact (Except.ok.inj hfound).symm
  split at hafter
  · next hreview => exact heldBy_asked (.inl (by simp [hreview])) hafter
  · next hreview =>
    obtain ⟨htier, hchosen⟩ := hafter
    rw [Bool.not_eq_true] at hreview
    rw [hreview, Bool.false_or]
    cases hwide : widespread found with
    | true =>
      rw [correlatedTier, if_pos hwide] at htier
      exact heldBy_asked (.inl rfl) (by rw [htier]; decide)
    | false =>
      rw [correlatedTier, hwide, if_neg (by decide)] at htier
      refine advised_heldBy hladder ?_ ?_ htier hchosen
      · exact fun _ h => allowedUpgrades_of_allowed (overruling_spec h).2
      · exact fun _ h => upgrade?_spec h

/-- **The floor under the advice.**  When somebody is asked behind a guard of either ladder, and
when no change goes ahead unasked. -/
theorem advice_held_iff (trigger : Trigger) (analysis : Option ScenarioAnalysis) :
    (∀ (services : FlagServices) (facts : FlagFacts) (decision : RemediationDecision),
      flagFacts services.reading trigger = .ok facts →
      flagGuarded services.reading trigger facts = true →
      decideFeatureFlag services trigger analysis = .ok decision →
      HeldBy (flagActsAlone services trigger facts) (asksForReview analysis) decision) ∧
    ∀ (services : KubernetesServices) (facts : KubernetesFacts) (decision : RemediationDecision),
      kubernetesFacts services.reading services.window trigger = .ok facts →
      kubernetesGuarded facts = true →
      decideKubernetes services trigger analysis = .ok decision →
      HeldBy (kubernetesActsAlone services facts) (asksForReview analysis || widespread facts)
        decision :=
  ⟨fun _ _ _ hfacts hguard hdecided => decideFeatureFlag_heldBy hfacts hguard hdecided,
    fun _ _ _ hfacts hguard hdecided =>
      decideKubernetes_heldBy hfacts (escalated_of_guards hguard _) hdecided⟩

def noReading : TextReading := { int := fun _ => none, float := fun _ => none }

def sampleCrashLoop : Trigger where
  triggerId := "trg_1"
  triggerType := "kubernetes_deployment_unhealthy"
  triggeredAt := "2026-07-12T16:00:00Z"
  environment := "production"
  service := "checkout"
  endpoint := "deployment/checkout"
  flagKey := none
  currentRolloutPct := none
  comparisonWindow := none
  segment := []
  metrics := []
  relatedContext :=
    [("release_id", .null), ("active_incidents", .int 0), ("similar_prior_cases", .int 0),
     ("rollout_status", .str "degraded"), ("error_signatures", .arr [.str "crash_loop"]),
     ("recent_deploy_within_window", .bool true)]

def sampleDeployHypothesis : RankedHypothesis where
  hypothesisId := "h_crash_recent_deploy"
  recommendedAction := "rollback_deployment"
  posteriorConfidence := 0.66
  supportingEvidence := ["recent_deploy: signal.recent_deploy_within_window=true"]
  disconfirmingEvidence := []

def servicesWith (hypotheses : List RankedHypothesis) : KubernetesServices :=
  { reading := noReading, window := 1800, hypotheses, reasoner := none }

def guardedDecision (services : KubernetesServices) (trigger : Trigger)
    (described : RemediationDecision → Bool) : Bool :=
  match kubernetesFacts services.reading services.window trigger,
      decideKubernetes services trigger none with
  | .ok facts, .ok decision =>
    kubernetesGuarded facts && !widespread facts && described decision
  | _, _ => false

theorem guardedDecision_spec {described : RemediationDecision → Bool}
    (h : guardedDecision services trigger described = true) :
    ∃ facts decision, kubernetesFacts services.reading services.window trigger = .ok facts ∧
      decideKubernetes services trigger none = .ok decision ∧ kubernetesGuarded facts = true ∧
      widespread facts = false ∧ described decision = true := by
  unfold guardedDecision at h
  split at h
  · next facts decision hfacts hdecided =>
    simp only [Bool.and_eq_true, Bool.not_eq_true'] at h
    exact ⟨facts, decision, hfacts, hdecided, h.1.1, h.1.2, h.2⟩
  · cases h

theorem advice_held_without_hypotheses :
    ∃ decision, decideKubernetes (servicesWith []) sampleCrashLoop none = .ok decision ∧
      decision.asksSomebody = true ∧ decision.autonomousMutation = false := by
  obtain ⟨facts, decision, hfacts, hdecided, hguard, -, -⟩ :=
    guardedDecision_spec (show guardedDecision (servicesWith []) sampleCrashLoop (fun _ => true) =
      true by decide +kernel)
  have hheld := (advice_held_iff _ _).2 _ _ _ hfacts hguard hdecided
  have hnone : kubernetesActsAlone (servicesWith []) facts = none := by
    unfold kubernetesActsAlone actsAlone
    simp [overruling, servicesWith, upgrade?]
  exact ⟨decision, hdecided, hheld.asks.mpr (.inr hnone), hheld.floor.mpr (.inr (.inl hnone))⟩

/-- The hypothesis that a deploy is to blame takes the place of the escalation, and
the rollback goes ahead unasked. -/
theorem hypothesis_overrides_guard :
    ∃ facts decision, kubernetesFacts noReading 1800 sampleCrashLoop = .ok facts ∧
      kubernetesGuarded facts = true ∧
      decideKubernetes (servicesWith [sampleDeployHypothesis]) sampleCrashLoop none =
        .ok decision ∧
      decision.asksSomebody = false ∧ decision.autonomousMutation = true := by
  obtain ⟨facts, decision, hfacts, hdecided, hguard, -, hdescribed⟩ :=
    guardedDecision_spec (show guardedDecision (servicesWith [sampleDeployHypothesis])
      sampleCrashLoop (fun d => !d.asksSomebody && d.autonomousMutation) = true by decide +kernel)
  simp only [Bool.and_eq_true, Bool.not_eq_true'] at hdescribed
  exact ⟨facts, decision, hfacts, hguard, hdecided, hdescribed.1, hdescribed.2⟩

end OrbitalMesh.Decision
