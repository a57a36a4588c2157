import OrbitalMesh.Signals.WatchedDeployments

/-!
# The deployment that was observed

The trigger of a signal about a deployment carries what was observed and what the
sender put into `related_context` in one dictionary, the sender's members last.  The
ladder and the execution plan read from that dictionary.
-/

namespace OrbitalMesh.Signals

open OrbitalMesh.Decision

variable (reading : TextReading)

/-- `seconds_since_deploy`, as the ladder reads it. -/
def readSeconds : Json → Except PyError (Option Int)
  | .null => .ok none
  | value => do return some (← pyInt reading value)

def judgedSeconds (trigger : Trigger) : Except PyError (Option Int) :=
  readSeconds reading (trigger.context "seconds_since_deploy")

variable (store : LearningStore) (raw : Dict)

/-- The signatures of the pods, events and logs, with those of drift and pressure. -/
def ownSignatures : List Json :=
  (triggerSignals (signaturesIn (logSummaryOf raw)) (kubernetesContext store raw)).map .str

def observedMember (key : String) : Json :=
  getOr (objectAt raw "deployment") key .null

def planParameter (plan : Dict) (key : String) : Json :=
  getOr (objectAt plan "parameters") key .null

structure ActsOnObserved (store : LearningStore) (raw : Dict)
    (trigger : Trigger) (plan : Dict) : Prop where
  namespaceName : planParameter plan "namespace" = getOr raw "namespace" .null
  deploymentName : planParameter plan "deployment_name" = observedMember raw "name"
  signatures : pyList (getOr trigger.relatedContext "error_signatures" (.arr [])) =
    .ok (ownSignatures store raw)
  rolloutStatus : pyStr (getOr trigger.relatedContext "rollout_status" (.str "degraded")) =
    pyStr (observedMember raw "rollout_status")
  seconds : judgedSeconds reading trigger =
    readSeconds reading (observedMember raw "seconds_since_deploy")

/-- What the sender put under a key of `related_context`; of two values the last one. -/
def sent (key : String) : Option Json :=
  (Dict.update [] (objectAt raw "related_context")).get? key

/-- The sender says nothing else than what was observed. -/
structure Intact (store : LearningStore) (raw : Dict) : Prop where
  namespaceName : ∀ value ∈ sent raw "namespace", value = getOr raw "namespace" .null
  deploymentName : ∀ value ∈ sent raw "deployment_name", value = observedMember raw "name"
  signatures : ∀ value ∈ sent raw "error_signatures", pyList value = .ok (ownSignatures store raw)
  rolloutStatus : ∀ value ∈ sent raw "rollout_status",
    pyStr value = pyStr (observedMember raw "rollout_status")
  seconds : ∀ value ∈ sent raw "seconds_since_deploy",
    readSeconds reading value = readSeconds reading (observedMember raw "seconds_since_deploy")

/-- A plan can come out: the context can be read, and the ladder stops neither at a patch of the
code nor at a failing probe. -/
def Open (window : Int) (trigger : Trigger) : Prop :=
  ∃ facts, kubernetesFacts reading window trigger = .ok facts ∧
    kubernetesRung facts ≠ .codeRemediation ∧ kubernetesRung facts ≠ .probeFailure ∧
    requireTexts facts.errorSignatures = .ok () ∧ requireTexts facts.eventReasons = .ok () ∧
    ∃ confidence, kubernetesConfidence reading trigger facts 0.9 = .ok confidence

def observedKeys : List String :=
  ["namespace", "deployment_name", "error_signatures", "rollout_status", "seconds_since_deploy"]

variable {key decisionType : String} {base : Binary64} {facts : KubernetesFacts}
  {services : KubernetesServices} {decision : RemediationDecision}

/-- **The sender comes last.**  Under the key of an observed value stands what the sender
put there, and the observed value where there is nothing. -/
theorem context_sent (hkey : key ∈ observedKeys) :
    (kubernetesTrigger (kubernetesEnvelope store raw)).relatedContext.get? key =
      (sent raw key).or
        ((detectedKubernetesContext
          [("cluster", getOr raw "cluster" .null), ("namespace", getOr raw "namespace" .null)]
          (objectAt raw "deployment") (logSummaryOf raw)
          (triggerSignals (signaturesIn (logSummaryOf raw)) (kubernetesContext store raw))
          (kubernetesContext store raw)).get? key) := by
  have henriched : key ∉ enrichedKeys := by
    revert key
    decide
  have hdefault : kubernetesContextDefaults.get? key = none := by
    revert key
    decide
  have hcontext : (kubernetesContext store raw).get? key = sent raw key := by
    have hlearned := enrichFromLearning_agrees (List.Subset.refl enrichedKeys) store
      (kubernetesContextDefaults.update (objectAt raw "related_context"))
      (textAt raw "service") none key henriched
    unfold kubernetesContext sent
    rw [← hlearned]
    cases hfound : (objectAt raw "related_context").get? key with
    | none =>
      rw [Dict.get?_update_of_none _ _ _ hfound, Dict.get?_update_of_none _ _ _ hfound, hdefault]
      rfl
    | some value => exact Dict.get?_update_congr (by rw [hfound]; rfl) _ _
  rw [kubernetesTrigger_context]
  cases hsent : sent raw key with
  | none => rw [Dict.get?_update_of_none _ _ _ (hcontext.trans hsent), Option.none_or]; rfl
  | some value =>
    rw [Dict.get?_update_of_some (kubernetesContext_distinct store raw) _
      (hcontext.trans hsent), Option.some_or]

theorem getOr_context_sent {own : Json} (hkey : key ∈ observedKeys)
    (hown : (detectedKubernetesContext
        [("cluster", getOr raw "cluster" .null), ("namespace", getOr raw "namespace" .null)]
        (objectAt raw "deployment") (logSummaryOf raw)
        (triggerSignals (signaturesIn (logSummaryOf raw)) (kubernetesContext store raw))
        (kubernetesContext store raw)).get? key = some own) (default : Json) :
    getOr (kubernetesTrigger (kubernetesEnvelope store raw)).relatedContext key default =
      (sent raw key).getD own := by
  rw [getOr, context_sent store raw hkey, hown]
  cases sent raw key <;> rfl

def deploymentPlans : List String :=
  ["rollback_deployment", "restart_deployment", "scale_deployment", "patch_resources"]

variable {trigger : Trigger}

/-- **A plan for Kubernetes** names the namespace and the deployment of the context, unless
it is about a single pod. -/
theorem executionPlan_names {reading : TextReading} {plan : Dict}
    (h : executionPlan reading trigger decisionType 0 = .ok plan)
    (hsystem : getOr plan "system" .null = .str "kubernetes_service")
    (hpod : decisionType ≠ "restart_pod") :
    decisionType ∈ deploymentPlans ∧
      planParameter plan "namespace" = trigger.context "namespace" ∧
      planParameter plan "deployment_name" = trigger.context "deployment_name" := by
  unfold executionPlan at h
  split at h
  case h_1 =>
    obtain ⟨_, -, hplan⟩ := bind_ok h
    cases hplan
    simp [planOf, getOr, Dict.get?_cons] at hsystem
  case h_2 | h_3 | h_5 | h_6 =>
    cases h
    simp [planOf, getOr, Dict.get?_cons, planParameter, objectAt, Json.asObj?, deploymentMembers,
      clusterMembers, deploymentPlans]
  case h_4 => exact absurd rfl hpod
  case h_7 =>
    unfold systemdPlan at h
    simp only [Except.bind_ok_iff] at h
    obtain ⟨_, -, _, -, _, -, _, -, _, -, hplan⟩ := h
    cases hplan
    simp [planOf, getOr, Dict.get?_cons] at hsystem
  case h_8 =>
    unfold repoPatchPlan at h
    simp only [Except.bind_ok_iff] at h
    obtain ⟨_, -, _, -, _, -, hplan⟩ := h
    cases hplan
    simp [planOf, getOr, Dict.get?_cons] at hsystem
  all_goals
    cases h
    simp [rolloutPlan, planOf, getOr, Dict.get?_cons] at hsystem

theorem buildConfidenceFactors_ok {reading : TextReading} {cases : Int} {causality : Json}
    {signals : List Json} {rate : Option Binary64} {recovery : Dict} {factors : List Binary64}
    (h : buildConfidenceFactors reading base cases causality signals rate recovery = .ok factors)
    (other : Binary64) :
    ∃ factors,
      buildConfidenceFactors reading other cases causality signals rate recovery = .ok factors := by
  unfold buildConfidenceFactors at h ⊢
  cases causality with
  | null =>
    obtain ⟨shift, hshift, h⟩ := bind_ok h
    obtain ⟨corroborating, hcorroborating, h⟩ := bind_ok h
    obtain ⟨memory, hmemory, h⟩ := bind_ok h
    obtain ⟨incidents, hincidents, h⟩ := bind_ok h
    obtain ⟨runs, hruns, -⟩ := bind_ok h
    rw [hcorroborating, hmemory, hincidents, hruns]
    exact ⟨_, rfl⟩
  | _ =>
    obtain ⟨shift, hshift, h⟩ := bind_ok h
    obtain ⟨shifted, -, h⟩ := bind_ok h
    obtain ⟨corroborating, hcorroborating, h⟩ := bind_ok h
    obtain ⟨memory, hmemory, h⟩ := bind_ok h
    obtain ⟨incidents, hincidents, h⟩ := bind_ok h
    obtain ⟨runs, hruns, -⟩ := bind_ok h
    dsimp only
    rw [hshift, hcorroborating, hmemory, hincidents, hruns]
    exact ⟨_, rfl⟩

theorem kubernetesConfidence_ok {reading : TextReading} {confidence : Binary64}
    (h : kubernetesConfidence reading trigger facts base = .ok confidence) (other : Binary64) :
    ∃ confidence, kubernetesConfidence reading trigger facts other = .ok confidence := by
  obtain ⟨relatedRuns, hruns, h⟩ := bind_ok h
  obtain ⟨factors, hfactors, -⟩ := bind_ok h
  obtain ⟨others, hothers⟩ := buildConfidenceFactors_ok hfactors other
  exact ⟨_, Except.bind_ok_iff.mpr ⟨relatedRuns, hruns,
    Except.bind_ok_iff.mpr ⟨others, hothers, rfl⟩⟩⟩

theorem kubernetesChoice_kept {choice : TieredChoice} {override : Option ReasoningResult}
    (h : kubernetesChoice services facts = .ok (choice, override))
    (hrung : kubernetesRung facts = .codeRemediation ∨ kubernetesRung facts = .probeFailure) :
    choice.decisionType ∈ ["investigate_and_patch", "defer_until"] := by
  obtain ⟨asked, hasked, h⟩ := bind_ok h
  cases h
  have hkept : afterHypotheses facts.repeatedRollback services.hypotheses
      ((kubernetesRung facts).choice facts.repeatedRollback) =
        (kubernetesRung facts).choice facts.repeatedRollback := by
    rcases hrung with hrung | hrung <;>
      simp [hrung, afterHypotheses, KubernetesRung.choice, upgrade?, upgradedBy]
  have hsure :
      ((kubernetesRung facts).choice facts.repeatedRollback).confidence.lt 0.65 = false := by
    rcases hrung with hrung | hrung <;> rw [hrung] <;>
      cases facts.repeatedRollback <;> decide +kernel
  have htype : ((kubernetesRung facts).choice facts.repeatedRollback).decisionType ∈
      ["investigate_and_patch", "defer_until"] := by
    rcases hrung with hrung | hrung <;> simp [hrung, KubernetesRung.choice]
  rw [hkept] at hasked ⊢
  have hnone : override = none := by
    have hother : ((kubernetesRung facts).choice facts.repeatedRollback).decisionType ≠
        "escalate" := by
      rcases hrung with hrung | hrung <;> simp [hrung, KubernetesRung.choice]
    unfold askReasoner at hasked
    split at hasked
    · rw [if_neg (by simp [hother, hsure])] at hasked
      exact (Except.ok.inj hasked).symm
    · exact (Except.ok.inj hasked).symm
  rw [hnone]
  exact htype

theorem decideKubernetes_plan {analysis : Option ScenarioAnalysis}
    (h : decideKubernetes services trigger analysis = .ok decision)
    (hsystem : getOr decision.executionPlan "system" .null = .str "kubernetes_service") :
    Open services.reading services.window trigger ∧
      planParameter decision.executionPlan "namespace" = trigger.context "namespace" ∧
      planParameter decision.executionPlan "deployment_name" =
        trigger.context "deployment_name" := by
  obtain ⟨facts, hfacts, h⟩ := bind_ok h
  obtain ⟨⟨choice, override⟩, hchoice, h⟩ := bind_ok h
  obtain ⟨confidence, hconfidence, h⟩ := bind_ok h
  obtain ⟨_, hsignatures, h⟩ := bind_ok h
  obtain ⟨_, hreasons, h⟩ := bind_ok h
  obtain ⟨plan, hplan, h⟩ := bind_ok h
  obtain ⟨reviewed, hreviewed, h⟩ := bind_ok h
  obtain rfl := RemediationDecision.validated_eq h
  have hpod : decision.decisionType ≠ "restart_pod" := by
    intro heq
    unfold RemediationDecision.validated at h
    rw [heq] at h
    obtain ⟨⟨⟩, hrefused, -⟩ := bind_ok h
    exact absurd hrefused (by decide +kernel)
  -- An analysis keeps type and plan, or makes an escalation of them.
  have hown : decision.decisionType = choice.decisionType ∧ decision.executionPlan = plan := by
    cases analysis with
    | none =>
      cases hreviewed
      exact ⟨rfl, rfl⟩
    | some analysis =>
      obtain ⟨chosen, hchosen, hdecision⟩ := bind_ok hreviewed
      cases hdecision
      unfold ScenarioAnalysis.choice at hchosen
      split at hchosen
      · obtain ⟨escalation, hescalation, hchosen⟩ := bind_ok hchosen
        cases hchosen
        exact absurd (executionPlan_names hescalation hsystem (by decide)).1 (by decide)
      · cases hchosen
        exact ⟨rfl, rfl⟩
  rw [hown.1] at hpod
  rw [hown.2] at hsystem ⊢
  obtain ⟨hnames, hnamespace, hdeployment⟩ := executionPlan_names hplan hsystem hpod
  have hrung (hkept : kubernetesRung facts = .codeRemediation ∨
      kubernetesRung facts = .probeFailure) : False := by
    have hdisjoint : ∀ name ∈ deploymentPlans, name ∉ ["investigate_and_patch", "defer_until"] := by
      decide
    exact hdisjoint _ hnames (kubernetesChoice_kept hchoice hkept)
  exact ⟨⟨facts, hfacts, fun h => hrung (.inl h), fun h => hrung (.inr h), hsignatures, hreasons,
    kubernetesConfidence_ok hconfidence 0.9⟩, hnamespace, hdeployment⟩

def restartAdvice : ReasoningResult where
  suggestedAction := "restart_deployment"
  confidence := 0.99

def restartServices (window : Int) : KubernetesServices where
  reading := reading
  window := window
  hypotheses := []
  reasoner := some (.ok restartAdvice)

def advisedChoice (again : Bool) (rung : KubernetesRung) : Except PyError TieredChoice := do
  let override ← askReasoner (some (.ok restartAdvice)) (rung.choice again).decisionType
    (rung.choice again).confidence
  return withOverride again override (rung.choice again)

def choiceFits (choice : TieredChoice) : Bool :=
  ["rollback_deployment", "restart_deployment", "patch_resources"].contains choice.decisionType &&
    ["autonomous", "approval_required", "escalated"].contains choice.autonomyTier &&
    ["low", "medium", "high"].contains choice.riskLevel

theorem advisedChoice_fits {rung : KubernetesRung} (hcode : rung ≠ .codeRemediation)
    (hprobe : rung ≠ .probeFailure) (again : Bool) :
    ∃ choice, advisedChoice again rung = .ok choice ∧ choiceFits choice = true := by
  have hfits : ((advisedChoice again rung).toOption.any choiceFits) = true := by
    cases rung with
    | codeRemediation => exact absurd rfl hcode
    | probeFailure => exact absurd rfl hprobe
    | _ => cases again <;> decide +kernel
  cases hchoice : advisedChoice again rung with
  | error e => simp [hchoice, Except.toOption] at hfits
  | ok choice => exact ⟨choice, rfl, by simpa [hchoice, Except.toOption] using hfits⟩

theorem executionPlan_ok (trigger : Trigger)
    (h : decisionType ∈ ["rollback_deployment", "restart_deployment", "patch_resources"]) :
    ∃ plan, executionPlan reading trigger decisionType 0 = .ok plan ∧
      getOr plan "system" .null = .str "kubernetes_service" ∧
      getOr plan "action" .null = .str decisionType := by
  simp only [List.mem_cons, List.not_mem_nil, or_false] at h
  rcases h with rfl | rfl | rfl <;>
    exact ⟨_, rfl, by simp [planOf, getOr, Dict.get?_cons], by simp [planOf, getOr, Dict.get?_cons]⟩

theorem validated_of_deploymentPlan
    (htype : decision.decisionType ∈
      ["rollback_deployment", "restart_deployment", "patch_resources"])
    (htier : decision.autonomyTier ∈ ["autonomous", "approval_required", "escalated"])
    (hrisk : decision.riskLevel ∈ ["low", "medium", "high"])
    (hsystem : getOr decision.executionPlan "system" .null = .str "kubernetes_service")
    (haction : getOr decision.executionPlan "action" .null = .str decision.decisionType) :
    decision.validated = .ok decision := by
  have hlisted : ∀ name ∈ ["rollback_deployment", "restart_deployment", "patch_resources"],
      name ∈ ["no_action", "reduce_rollout", "disable_flag", "defer_until", "escalate",
        "investigate_and_patch", "rollback_deployment", "restart_deployment", "scale_deployment",
        "patch_resources", "restart_systemd_service"] ∧
      name ∈ ["set_rollout", "open_incident", "record_no_action", "record_defer_until",
        "investigate_and_patch", "rollback_deployment", "restart_deployment", "scale_deployment",
        "patch_resources", "restart_systemd_service", "start_systemd_service",
        "stop_systemd_service"] := by
    decide
  obtain ⟨hknown, hacts⟩ := hlisted _ htype
  unfold RemediationDecision.validated
  rw [checkNode_textIn hknown, ok_bind, checkNode_textIn htier, ok_bind, checkNode_textIn hrisk,
    ok_bind, hsystem, checkNode_textIn (by decide), ok_bind, haction, checkNode_textIn hacts]
  rfl

/-- **Where the ladder is open**, some advice leads to a plan for Kubernetes. -/
theorem decision_of_open {reading : TextReading} {window : Int} (h : Open reading window trigger) :
    ∃ decision,
      decideKubernetes (restartServices reading window) trigger none = .ok decision ∧
      getOr decision.executionPlan "system" .null = .str "kubernetes_service" := by
  obtain ⟨facts, hfacts, hcode, hprobe, hsignatures, hreasons, confidence, hconfidence⟩ := h
  obtain ⟨choice, hadvised, hfits⟩ := advisedChoice_fits hcode hprobe facts.repeatedRollback
  obtain ⟨override, hasked, hchoice⟩ := bind_ok hadvised
  simp only [choiceFits, Bool.and_eq_true, List.contains_iff_mem] at hfits
  obtain ⟨⟨htype, htier⟩, hrisk⟩ := hfits
  have hkept : afterHypotheses facts.repeatedRollback []
      ((kubernetesRung facts).choice facts.repeatedRollback) =
        (kubernetesRung facts).choice facts.repeatedRollback := by
    unfold afterHypotheses upgrade?
    split <;> rfl
  obtain ⟨final, hfinal⟩ := kubernetesConfidence_ok hconfidence choice.confidence
  obtain ⟨plan, hplan, hsystem, haction⟩ := executionPlan_ok reading trigger htype
  have htiered : correlatedTier facts choice.autonomyTier ∈
      ["autonomous", "approval_required", "escalated"] := by
    unfold correlatedTier
    split
    · decide
    · exact htier
  refine ⟨{ decisionType := choice.decisionType
            autonomyTier := correlatedTier facts choice.autonomyTier
            riskLevel := choice.riskLevel
            blastRadius := blastRadius (kubernetesRung facts) override.isSome
            confidence := final
            executionPlan := plan }, ?_, hsystem⟩
  have hchosen : kubernetesChoice (restartServices reading window) facts =
      .ok (choice, override) := by
    unfold kubernetesChoice
    simp only [restartServices]
    rw [hkept, hasked, ok_bind]
    cases hchoice
    rfl
  unfold decideKubernetes
  simp only [restartServices] at hchosen ⊢
  rw [hfacts, ok_bind, hchosen, ok_bind]
  rw [hfinal, ok_bind, hsignatures, ok_bind, hreasons, ok_bind, hplan, ok_bind]
  exact validated_of_deploymentPlan htype htiered hrisk hsystem haction

def AlwaysActsOnObserved (window : Int) (store : LearningStore) (raw : Dict)
    (trigger : Trigger) : Prop :=
  ∀ hypotheses reasoner analysis decision,
    decideKubernetes ⟨reading, window, hypotheses, reasoner⟩ trigger analysis = .ok decision →
    getOr decision.executionPlan "system" .null = .str "kubernetes_service" →
    ActsOnObserved reading store raw trigger decision.executionPlan

theorem detectRaw_spec {store : LearningStore} {raw : Dict}
    (h : detectRaw store raw = .ok (some trigger)) :
    trigger = kubernetesTrigger (kubernetesEnvelope store raw) := by
  obtain ⟨envelope, henvelope, h⟩ := bind_ok h
  obtain ⟨_, -, henvelope⟩ := bind_ok henvelope
  cases henvelope
  unfold detectKubernetesTrigger at h
  split at h
  · obtain ⟨_, -, h⟩ := bind_ok h
    cases h
    rfl
  · cases h

/-- What the ladder and the plan read in the trigger's context. -/
structure Reads (trigger : Trigger) : Prop where
  namespaceName : trigger.context "namespace" =
    (sent raw "namespace").getD (getOr raw "namespace" .null)
  deploymentName : trigger.context "deployment_name" =
    (sent raw "deployment_name").getD (observedMember raw "name")
  signatures : getOr trigger.relatedContext "error_signatures" (.arr []) =
    (sent raw "error_signatures").getD (.arr (ownSignatures store raw))
  rolloutStatus : getOr trigger.relatedContext "rollout_status" (.str "degraded") =
    (sent raw "rollout_status").getD (observedMember raw "rollout_status")
  seconds : trigger.context "seconds_since_deploy" =
    (sent raw "seconds_since_deploy").getD (observedMember raw "seconds_since_deploy")

theorem reads_kubernetesTrigger :
    Reads store raw (kubernetesTrigger (kubernetesEnvelope store raw)) where
  namespaceName := getOr_context_sent store raw (by decide)
    (by simp [detectedKubernetesContext, Dict.get?_cons, getOr]) .null
  deploymentName := getOr_context_sent store raw (by decide)
    (by simp [detectedKubernetesContext, Dict.get?_cons, observedMember]) .null
  signatures := getOr_context_sent store raw (by decide)
    (by simp [detectedKubernetesContext, Dict.get?_cons, ownSignatures, textList]) (.arr [])
  rolloutStatus := getOr_context_sent store raw (by decide)
    (by simp [detectedKubernetesContext, Dict.get?_cons, observedMember]) (.str "degraded")
  seconds := getOr_context_sent store raw (by decide)
    (by simp [detectedKubernetesContext, Dict.get?_cons, observedMember]) .null

def steeredSignal : Dict :=
  crashingReading.signal.set "related_context"
    (.obj [("namespace", .str "kube-system"), ("deployment_name", .str "coredns"),
      ("rollout_status", .str "failed")])

end OrbitalMesh.Signals
