import OrbitalMesh.Evaluation.RemediationSafety

/-!
# The evaluation service

`EvaluationService.evaluate` takes a decision through its gates.  Each gate notes what it
finds, its notes become blockers, and the blockers and the judge settle the recommendation.
What the gates ask of validators, actuators and trace scorers is left open.
-/

namespace OrbitalMesh.Evaluation

open OrbitalMesh.Decision

structure EvaluationCall where
  trigger : Trigger
  decision : ContractDecision
  allowRereevaluation : Bool := false
  runId : Option String := none
  runEvents : List Json := []
  artifacts : Dict := []

/-- `autonomy.policy.json`, `protected-scope.policy.json` and `rollback.policy.json`. -/
structure EvaluationPolicies where
  allowedDecisionTypes : List String
  allowedExecutionSystems : List String
  allowedExecutionActions : List (String × List String)
  idempotentActions : List String
  approvalRequiredCustomerTiers : List String
  requireRollbackPlanForDecisionTypes : List String
  minimumConfidence : Binary64

structure Stage where
  passed : Bool
  notes : List String := []

structure StageResults where
  schemaValidation : Stage
  policyValidation : Stage
  contractChecks : Stage
  trajectoryQuality : Stage
  businessRules : Stage
  executionReadiness : Stage
  evidenceSufficiency : Stage
  autonomyPolicy : AutonomyPolicyVerdict
  remediationSafety : RemediationSafetyCase

structure EvaluationResult where
  evaluationId : String
  decisionId : String
  passed : Bool
  finalRecommendation : String
  stageResults : StageResults
  sreRecommendation : String
  blockingReasons : List String
  reviewRoute : Option String

/-- What `evaluate` asks of others.  The readiness checks are ready where they have no notes. -/
structure EvaluationService where
  policies : EvaluationPolicies
  /-- the text of the `SchemaValidationError` of `validate` -/
  validationError : Trigger → ContractDecision → Option String
  credentialsAvailable : Trigger → Json → Bool
  repoPatchNotes : ContractDecision → List String
  systemdServiceNotes : ContractDecision → List String
  evidenceSufficient : Trigger → ContractDecision → Bool
  policyCall : EvaluationCall → PolicyCall
  stateStore : StateStore
  trajectoryPassed : EvaluationCall → Except PyError Bool
  sreJudge : EvaluationCall → StageResults → List String → String
  sreJudgeEnforces : Bool

/-- `evaluated_triggers`: the decision that each trigger was registered with. -/
abbrev Registrations := List (String × String)

/-- `register_evaluation`: whether it is accepted. -/
def registerEvaluation (registrations : Registrations) (triggerId decisionId : String) :
    Bool × Registrations :=
  if (registrations.lookup triggerId).isSome then (false, registrations)
  else (true, (triggerId, decisionId) :: registrations)

/-- `d[key]`. -/
def memberAt (d : Dict) (key : String) : Except PyError Json :=
  ((d.get? key).map .ok).getD (.error ⟨.keyError, pyRepr key⟩)

def listed (texts : List String) : Json → Bool
  | .str text => texts.contains text
  | _ => false

/-- A number to compare with; `sign` is the comparison. -/
def comparable (sign other : String) (value : Json) : Except PyError Binary64 :=
  match asNumber? value with
  | some number => .ok number.exact
  | none => typeError ("'" ++ sign ++ "' not supported between instances of '" ++
      typeName value ++ "' and '" ++ other ++ "'")

/-- What the policies say of the plan. -/
structure PlanStanding where
  system : Json
  decisionAllowed : Bool
  systemAllowed : Bool
  actionAllowed : Bool
  idempotent : Bool

variable (policies : EvaluationPolicies)

/-- `autonomy_policy["allowed_execution_actions"].get(system, [])`. -/
def EvaluationPolicies.actionsOf :
    Json → Except PyError (List String)
  | .str system => .ok ((policies.allowedExecutionActions.lookup system).getD [])
  | .arr _ => typeError "unhashable type: 'list'"
  | .obj _ => typeError "unhashable type: 'dict'"
  | _ => .ok []

def EvaluationPolicies.standing (d : ContractDecision) :
    Except PyError PlanStanding := do
  let system ← memberAt d.executionPlan "system"
  let action ← memberAt d.executionPlan "action"
  let actions ← policies.actionsOf system
  return {
    system
    decisionAllowed := policies.allowedDecisionTypes.contains d.decisionType
    systemAllowed := listed policies.allowedExecutionSystems system
    actionAllowed := listed actions action
    idempotent := listed policies.idempotentActions action }

def PlanStanding.inPolicy (plan : PlanStanding) : Bool :=
  plan.decisionAllowed && plan.systemAllowed && plan.actionAllowed

def PlanStanding.notes (plan : PlanStanding) (suppressed : Bool) : List String :=
  listedWhere
    [(!plan.decisionAllowed, "decision type falls outside the allowed action set"),
     (!plan.systemAllowed || !plan.actionAllowed,
        "execution plan falls outside the allowed action set"),
     (suppressed, "duplicate evaluation suppressed for trigger_id")]

variable (call : EvaluationCall)

def businessNotes :
    Except PyError (List String) := do
  let d := call.decision
  let autonomous := d.autonomyTier == "autonomous"
  let tier ← memberAt call.trigger.segment "customer_tier"
  let rollbacks ← comparable ">" "int"
    (getOr call.trigger.relatedContext "rollbacks_last_24h" (.int 0))
  let blastRadius ← memberAt d.risk "blast_radius"
  let repeatedRollback := (Binary64.finite 0).lt rollbacks
  return listedWhere
    [(autonomous && (listed policies.approvalRequiredCustomerTiers tier || repeatedRollback ||
        "multi_".toList.isPrefixOf (pyStr blastRadius).toList),
        "scope requires approval before execution"),
     (d.autonomyTier == "approval_required", "approval required before execution"),
     (repeatedRollback && autonomous, "recent rollback cooldown conflict"),
     (d.decisionType == "escalate" && call.trigger.triggerType != "webhook_alert_firing",
        "decision routes to human review")]

variable (svc : EvaluationService)

/-- `readiness_notes` and `readiness_passed`. -/
def EvaluationService.readiness (plan : PlanStanding) : Except PyError (List String × Bool) := do
  let d := call.decision
  let rollbackMissing := svc.policies.requireRollbackPlanForDecisionTypes.contains d.decisionType &&
    !truthyAt d.executionPlan "rollback_plan"
  let credentials := svc.credentialsAvailable call.trigger plan.system
  let confidence ← comparable "<" "float" d.confidence
  let level ← memberAt d.risk "level"
  let notes := listedWhere
    [(confidence.lt svc.policies.minimumConfidence, "confidence below minimum threshold"),
     (level == .str "high", "risk level is high"),
     (!plan.idempotent, "action is not idempotent"),
     (rollbackMissing, "rollback parameters are missing"),
     (!credentials, "required credentials are unavailable")]
  return (notes ++ svc.repoPatchNotes d ++ svc.systemdServiceNotes d,
    credentials && !rollbackMissing && plan.idempotent &&
      svc.policies.minimumConfidence.le confidence && level != .str "high" &&
      (svc.repoPatchNotes d).isEmpty && (svc.systemdServiceNotes d).isEmpty)

def safetyBlockingReason (case : RemediationSafetyCase) : Option String :=
  if case.passed then none
  else if case.hardStops.isEmpty then some "remediation safety score below execution threshold"
  else some "remediation safety case has hard stops"

def orDefault (notes default : List String) : List String :=
  if notes.isEmpty then default else notes

def readyNote : Json → String
  | .str "feature_flag_service" => "feature flag credentials available"
  | .str "incident_service" => "incident credentials available"
  | _ => "audit logging available"

/-- The stages and the blockers that the judge sees. -/
def EvaluationService.stages
    (plan : PlanStanding) (suppressed : Bool) : Except PyError (StageResults × List String) := do
  let d := call.decision
  let schemaNotes := (svc.validationError call.trigger d).toList
  let policyNotes := plan.notes suppressed
  let policyPassed := plan.inPolicy && !suppressed
  let business ← businessNotes svc.policies call
  let (readinessNotes, readinessPassed) ← svc.readiness call plan
  let evidence := svc.evidenceSufficient call.trigger d
  let autonomy := evaluateAutonomyPolicy (svc.policyCall call) d
  let gates := schemaNotes ++ policyNotes ++ business ++ readinessNotes ++
    listedWhere [(!evidence, "evidence sufficiency gate did not pass")] ++ autonomy.blockers
  let safety ← evaluateRemediationSafety {
    trigger := call.trigger
    decision := d
    stateStore := svc.stateStore
    priorBlockingReasons := gates
    schemaPassed := schemaNotes.isEmpty
    policyPassed
    readinessPassed }
  let trajectory ← svc.trajectoryPassed call
  return ({
      schemaValidation := ⟨schemaNotes.isEmpty, schemaNotes⟩
      policyValidation := ⟨policyPassed, policyNotes⟩
      contractChecks := { passed := schemaNotes.isEmpty && policyPassed && business.isEmpty &&
        readinessPassed && safety.passed }
      trajectoryQuality := { passed := trajectory }
      businessRules := ⟨business.isEmpty,
        orDefault business ["single-service scope", "no cooldown conflict"]⟩
      executionReadiness := ⟨readinessPassed,
        orDefault readinessNotes [readyNote plan.system, "rollback value present"]⟩
      evidenceSufficiency := { passed := evidence }
      autonomyPolicy := autonomy
      remediationSafety := safety },
    gates ++ (safetyBlockingReason safety).toList ++
      listedWhere [(!trajectory, "trajectory quality gate did not pass")])

/-- The blockers that an enforcing judge adds. -/
def judgeBlockers (recommendation : String) (blockers : List String) : List String :=
  listedWhere
    [(["human_review", "defer"].contains recommendation && blockers.isEmpty,
        "sre judge recommends " ++ recommendation),
     (recommendation == "reject", "sre judge rejected decision")]

/-- What follows from the gates and from the judge. -/
def EvaluationService.conclude (rejected : Bool)
    (stages : StageResults) (blockers : List String) : EvaluationResult :=
  let advice := svc.sreJudge call stages blockers
  let blocking := blockers ++ if svc.sreJudgeEnforces then judgeBlockers advice blockers else []
  let reject := rejected || svc.sreJudgeEnforces && advice == "reject"
  let passed := blocking.isEmpty
  { evaluationId := "eval_" ++ call.decision.decisionId
    decisionId := call.decision.decisionId
    passed
    finalRecommendation :=
      if svc.sreJudgeEnforces && !reject && advice == "defer" then "human_review"
      else if reject then "reject"
      else if passed then "execute"
      else "human_review"
    stageResults := stages
    sreRecommendation := advice
    blockingReasons := blocking
    reviewRoute := if !passed && !reject then some "human_review" else none }

/-- The registration of a valid decision stays, whatever is raised later on. -/
def EvaluationService.evaluate
    (registrations : Registrations) : Except PyError EvaluationResult × Registrations :=
  match svc.policies.standing call.decision with
  | .error e => (.error e, registrations)
  | .ok plan =>
    let (accepted, registrations) :=
      if (svc.validationError call.trigger call.decision).isNone then
        registerEvaluation registrations call.trigger.triggerId call.decision.decisionId
      else (true, registrations)
    let suppressed := !accepted && !call.allowRereevaluation
    let result := do
      let (stages, blockers) ← svc.stages call plan suppressed
      return svc.conclude call (!plan.inPolicy || suppressed) stages blockers
    (result, registrations)

/-- What the registrations are after evaluating some calls, with or without a result. -/
inductive Evaluated (svc : EvaluationService) : List EvaluationCall → Registrations → Prop
  | start : Evaluated svc [] []
  | evaluate {past : List EvaluationCall} {registrations : Registrations}
      (h : Evaluated svc past registrations) (call : EvaluationCall) :
      Evaluated svc (call :: past) (svc.evaluate call registrations).2

theorem listedWhere_eq_nil {findings : List (Bool × String)} :
    listedWhere findings = [] ↔ ∀ finding ∈ findings, finding.1 = false := by
  simp [listedWhere]

def StageResults.verdicts (stages : StageResults) : List Bool :=
  [stages.schemaValidation.passed, stages.policyValidation.passed, stages.contractChecks.passed,
    stages.businessRules.passed, stages.executionReadiness.passed,
    stages.evidenceSufficiency.passed, stages.autonomyPolicy.allowed,
    stages.remediationSafety.passed, stages.trajectoryQuality.passed]

/-- It passes where there is no blocker, which is where it recommends to execute. -/
structure EvaluationResult.Consistent (e : EvaluationResult) : Prop where
  passed_iff : e.passed = true ↔ e.blockingReasons = []
  execute_iff : e.finalRecommendation = "execute" ↔ e.blockingReasons = []
  stages : e.passed = true → ∀ verdict ∈ e.stageResults.verdicts, verdict = true

section

variable {svc : EvaluationService} {call : EvaluationCall} {plan : PlanStanding}
  {suppressed : Bool} {stages : StageResults} {blockers : List String}

theorem notes_ne_nil (h : (!plan.inPolicy || suppressed) = true) : plan.notes suppressed ≠ [] := by
  intro hnil
  have hall := listedWhere_eq_nil.mp hnil
  simp only [List.forall_mem_cons, Bool.not_eq_false', Bool.or_eq_false_iff] at hall
  simp [PlanStanding.inPolicy, hall] at h

theorem allowed_of_blockers_eq_nil {policy : PolicyCall} {d : ContractDecision}
    (h : (evaluateAutonomyPolicy policy d).blockers = []) :
    (evaluateAutonomyPolicy policy d).allowed = true := by
  simp only [evaluateAutonomyPolicy, judge] at h ⊢
  rw [List.isEmpty_iff, List.eq_nil_iff_forall_not_mem]
  intro blocker hmem
  rw [List.eq_nil_iff_forall_not_mem] at h
  exact h blocker (mem_sortedSet.mpr hmem)

theorem gates_of_safety {request : SafetyRequest} {case : RemediationSafetyCase}
    (h : evaluateRemediationSafety request = .ok case) (hpassed : case.passed = true) :
    request.schemaPassed = true ∧ request.policyPassed = true ∧
      request.readinessPassed = true := by
  obtain ⟨c, guarded, -, -, -, hpass, hverdict⟩ := evaluate_spec h
  have hstops := (hverdict.mp (hpass.mp hpassed)).1
  simp only [StopsAt, not_or, Bool.not_eq_false] at hstops
  exact hstops.1

/-- Each gate that does not pass has put a blocker down. -/
theorem stages_spec (h : svc.stages call plan suppressed = .ok (stages, blockers)) :
    ((!plan.inPolicy || suppressed) = true → blockers ≠ []) ∧
      (blockers = [] → ∀ verdict ∈ stages.verdicts, verdict = true) := by
  obtain ⟨business, -, h⟩ := bind_ok h
  obtain ⟨⟨readinessNotes, readinessPassed⟩, -, h⟩ := bind_ok h
  obtain ⟨safety, hsafety, h⟩ := bind_ok h
  obtain ⟨trajectory, -, h⟩ := bind_ok h
  obtain ⟨rfl, rfl⟩ := Prod.mk.inj (Except.ok.inj h)
  refine ⟨fun hout hnil => notes_ne_nil hout (by simp_all), fun hnil => ?_⟩
  simp only [List.append_eq_nil_iff, listedWhere_eq_nil, Option.toList_eq_nil_iff,
    List.forall_mem_singleton, Bool.not_eq_false'] at hnil
  obtain ⟨⟨⟨⟨⟨⟨⟨hschema, -⟩, hbusiness⟩, -⟩, hevidence⟩, hautonomy⟩, hreason⟩, htrajectory⟩ := hnil
  have hpassed : safety.passed = true := by
    by_contra hfailed
    rw [safetyBlockingReason, if_neg hfailed] at hreason
    split at hreason <;> cases hreason
  obtain ⟨-, hpolicy, hready⟩ := gates_of_safety hsafety hpassed
  simp only at hpolicy hready
  have hallowed := allowed_of_blockers_eq_nil hautonomy
  simp [StageResults.verdicts, *]

/-- The judge adds a blocker wherever its advice is not to execute. -/
theorem conclude_consistent {rejected : Bool} (hrejected : rejected = true → blockers ≠ [])
    (hstages : blockers = [] → ∀ verdict ∈ stages.verdicts, verdict = true) :
    (svc.conclude call rejected stages blockers).Consistent ∧
      ((svc.conclude call rejected stages blockers).finalRecommendation = "reject" ↔
        rejected = true ∨ svc.sreJudgeEnforces = true ∧
          svc.sreJudge call stages blockers = "reject") := by
  refine ⟨⟨List.isEmpty_iff, ?_, fun hpassed => hstages ?_⟩, ?_⟩
  · simp only [EvaluationService.conclude, judgeBlockers]
    generalize svc.sreJudge call stages blockers = advice
    cases blockers with
    | nil =>
      obtain rfl : rejected = false := by simpa using hrejected
      by_cases hreject : advice = "reject"
      · cases svc.sreJudgeEnforces <;> simp [listedWhere, hreject]
      · by_cases hdefer : advice = "defer" <;> by_cases hreview : advice = "human_review" <;>
          cases svc.sreJudgeEnforces <;> simp [listedWhere, *]
    | cons blocker rest => cases svc.sreJudgeEnforces <;> cases rejected <;> grind
  · exact (List.append_eq_nil_iff.mp (List.isEmpty_iff.mp hpassed)).1
  · simp only [EvaluationService.conclude]
    generalize svc.sreJudge call stages blockers = advice
    cases svc.sreJudgeEnforces <;> cases rejected <;> grind

variable {registrations : Registrations}

/-- What `evaluate` concludes and from what. -/
theorem evaluate_ok {registrations' : Registrations} {e : EvaluationResult}
    (h : svc.evaluate call registrations = (.ok e, registrations')) :
    ∃ plan suppressed stages blockers, svc.policies.standing call.decision = .ok plan ∧
      (suppressed = true ↔ svc.validationError call.trigger call.decision = none ∧
        (registrations.lookup call.trigger.triggerId).isSome = true ∧
          call.allowRereevaluation = false) ∧
      svc.stages call plan suppressed = .ok (stages, blockers) ∧
      svc.conclude call (!plan.inPolicy || suppressed) stages blockers = e := by
  unfold EvaluationService.evaluate at h
  cases hplan : svc.policies.standing call.decision with
  | error error => simp [hplan] at h
  | ok plan =>
    simp only [hplan, Prod.mk.injEq] at h
    obtain ⟨⟨stages, blockers⟩, hstages, he⟩ := bind_ok h.1
    refine ⟨plan, _, stages, blockers, rfl, ?_, hstages, Except.ok.inj he⟩
    by_cases hvalid : svc.validationError call.trigger call.decision = none
    · by_cases hold : (registrations.lookup call.trigger.triggerId).isSome = true <;>
        simp [registerEvaluation, hvalid, hold]
    · simp [hvalid]

/-- A trigger is registered where a valid decision for it has come past the policies. -/
theorem registered_iff {past : List EvaluationCall} (h : Evaluated svc past registrations)
    {triggerId : String} :
    (registrations.lookup triggerId).isSome = true ↔ ∃ earlier ∈ past,
      earlier.trigger.triggerId = triggerId ∧
      svc.validationError earlier.trigger earlier.decision = none ∧
      ∃ plan, svc.policies.standing earlier.decision = .ok plan := by
  induction h with
  | start => simp
  | @evaluate past registrations hpast call ih =>
    rw [List.exists_mem_cons_iff, ← ih]
    unfold EvaluationService.evaluate registerEvaluation
    cases hplan : svc.policies.standing call.decision with
    | error error => simp
    | ok plan =>
      by_cases hvalid : svc.validationError call.trigger call.decision = none
      · grind
      · simp [hvalid]

end

/-- Only the tier of a decision is validated, and the judge does not enforce. -/
def plainService : EvaluationService where
  policies :=
    { allowedDecisionTypes := ["restart_deployment"]
      allowedExecutionSystems := ["kubernetes_service"]
      allowedExecutionActions := [("kubernetes_service", ["restart_deployment"])]
      idempotentActions := ["restart_deployment"]
      approvalRequiredCustomerTiers := ["strategic", "platinum"]
      requireRollbackPlanForDecisionTypes := ["restart_deployment"]
      minimumConfidence := 0.75 }
  validationError _ d :=
    if ["autonomous", "approval_required", "escalated"].contains d.autonomyTier then none
    else some "$.autonomy_tier: unexpected value"
  credentialsAvailable _ _ := true
  repoPatchNotes _ := []
  systemdServiceNotes _ := []
  evidenceSufficient _ _ := true
  policyCall _ := {}
  stateStore := .missing
  trajectoryPassed _ := .ok true
  sreJudge _ _ _ := "execute"
  sreJudgeEnforces := false

def restartCall (autonomyTier : String) : EvaluationCall where
  trigger := (restartRequest []).trigger
  decision := { (restartRequest []).decision with
    autonomyTier
    executionPlan := [("system", .str "kubernetes_service"), ("action", .str "restart_deployment"),
      ("rollback_plan", .str "undo")] }

def afterRestart : Registrations := (plainService.evaluate (restartCall "autonomous") []).2

/-- What becomes of a decision for the trigger of the restart. -/
def laterOutcome (autonomyTier : String) : Option String :=
  (plainService.evaluate (restartCall autonomyTier) afterRestart).1.toOption.map
    EvaluationResult.finalRecommendation

theorem exists_of_laterOutcome {autonomyTier recommendation : String}
    (h : laterOutcome autonomyTier = some recommendation) :
    ∃ e registrations', plainService.evaluate (restartCall autonomyTier) afterRestart =
      (.ok e, registrations') ∧ e.finalRecommendation = recommendation := by
  unfold laterOutcome at h
  cases hresult : plainService.evaluate (restartCall autonomyTier) afterRestart with
  | mk result registrations' =>
    cases result with
    | error error => simp [hresult, Except.toOption] at h
    | ok e => exact ⟨e, registrations', rfl, by simpa [hresult, Except.toOption] using h⟩

end OrbitalMesh.Evaluation
