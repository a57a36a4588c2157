import OrbitalMesh.Decision.Proposals

/-!
# Feedback

After an action `FeedbackService` judges whether it helped.  The measurements come from
the signal that asked for the action, and over them from the observers: Prometheus for
latency and error rate, the cluster for a deployment.  Where live observations are
required, some window must name a live source.
-/

namespace OrbitalMesh.Feedback

open OrbitalMesh.Decision

/-- `d.get(key, default)`. -/
def valueAt (d : LoadedDict) (key : String) (default : Loaded) : Loaded :=
  (d.lookup key).getD default

/-- An item that `dict` takes: a key and a value.  A key that is no text is never looked
up. -/
def entryOf : Loaded → Except PyError (Option (String × Loaded))
  | .arr [.str key, value] => .ok (some (key, value))
  | .arr [.arr _, _] => typeError "unhashable type: 'list'"
  | .arr [.obj _, _] => typeError "unhashable type: 'dict'"
  | .arr [_, _] => .ok none
  | .obj [(key, _), (value, _)] => .ok (some (key, .str value))
  | .str text =>
    match text.toList with
    | [key, value] => .ok (some (String.singleton key, .str (String.singleton value)))
    | _ => valueError "dictionary update sequence element has the wrong length"
  | .arr _ | .obj _ => valueError "dictionary update sequence element has the wrong length"
  | _ => typeError "cannot convert dictionary update sequence element to a sequence"

/-- `dict(value)`.  Of two values of a key the last one stays. -/
def dictOf : Loaded → Except PyError LoadedDict
  | .obj members => .ok members
  | .arr items => do return ((← items.mapM entryOf).filterMap id).reverse
  | .str text =>
    if text = "" then .ok []
    else valueError "dictionary update sequence element has the wrong length"
  | value => typeError ("'" ++ value.typeName ++ "' object is not iterable")

/-- `int(value)`. -/
def intOf (reading : TextReading) : Loaded → Except PyError Int
  | .bool b => .ok (if b then 1 else 0)
  | .int n => .ok n
  | .float (.finite x) => .ok (if x < 0 then x.ceil else x.floor)
  | .float (.infinite _) => .error ⟨.overflowError, "cannot convert float infinity to integer"⟩
  | .float .nan => valueError "cannot convert float NaN to integer"
  | .str text =>
    match reading.int text with
    | some n => .ok n
    | none => valueError ("invalid literal for int() with base 10: " ++ pyRepr text)
  | value =>
    typeError ("int() argument must be a string, a bytes-like object or a real number, not '" ++
      value.typeName ++ "'")

/-- `list(value)`. -/
def listOf : Loaded → Except PyError (List Loaded)
  | .arr items => .ok items
  | .obj members => .ok (members.map fun member => .str member.1)
  | .str text => .ok (text.toList.map fun c => .str (String.singleton c))
  | value => typeError ("'" ++ value.typeName ++ "' object is not iterable")

/-- `value == 0`. -/
def isZero (value : Loaded) : Bool := value.number? == some (.finite 0)

/-- What is read of a trigger.  The metrics are numbers or `None` by its schema. -/
structure FeedbackTrigger where
  triggerType : String
  service : String
  baselineLatency : Option Number := none
  observedLatency : Option Number := none
  baselineErrorRate : Option Number := none
  observedErrorRate : Option Number := none
  desiredReplicas : Option Int := none
  restartCountTotal : Option Int := none
  relatedContext : LoadedDict := []

/-- What is read of a decision. -/
structure FeedbackDecision where
  decisionId : String
  decisionType : String
  executionPlan : LoadedDict

/-- What is read of an execution. -/
structure FeedbackExecution where
  executionId : String
  status : String
  externalRefs : LoadedDict

inductive QueryAnswer where
  | value (x : Binary64)
  | noData
  /-- a `PrometheusQueryError` -/
  | failed

/-- `_query`. -/
def QueryAnswer.reading : QueryAnswer → Option Binary64
  | .value x => some x
  | .noData | .failed => none

/-- `PrometheusFeedbackObserver`: what its queries answer for a service and a window. -/
structure PrometheusObserver where
  latency : String → String → QueryAnswer
  errorRate : String → String → QueryAnswer

/-- What `collect_kubernetes_signal` shows of a deployment. -/
structure LiveDeployment where
  rolloutStatus : String
  desiredReplicas : Int
  readyReplicas : Int
  restartDelta : Int
  newErrorSignatures : List String
  observedTimeToEffect : String
  measuredAt : String

/-- Where a deployment is looked for. -/
structure FeedbackScope where
  deploymentName : Option String
  namespaceName : Option String
  kubeContext : Option String
  cluster : Option String

/-- `KubernetesFeedbackObserver`: what it collects, unless that raises. -/
abbrev KubernetesObserver := FeedbackScope → Option LiveDeployment

structure FeedbackService where
  observer : Option PrometheusObserver
  kubernetesObserver : Option KubernetesObserver
  requireLiveObservations : Bool

/-- The part of a `FeedbackRecord` that is judged. -/
structure FeedbackRecord where
  measuredAt : String
  outcome : String
  metricComparison : LoadedDict
  sideEffects : List Loaded
  recommendedFollowUp : Option String

structure Observations where
  tenMinutes : LoadedDict
  thirtyMinutes : LoadedDict
  day : Option LoadedDict

def measured (key : String) (answer : QueryAnswer) : LoadedDict :=
  match answer.reading with
  | some x => [(key, .float x)]
  | none => []

def PrometheusObserver.observe (observer : PrometheusObserver) (now service window : String) :
    LoadedDict :=
  measured "error_rate" (observer.errorRate service window) ++
    measured "p95_latency_ms" (observer.latency service window) ++
    [("source", .str "prometheus"), ("measured_at", .str now)]

def liveWindow (observer : Option PrometheusObserver) (now service window : String) :
    LoadedDict :=
  match observer with
  | some observer => observer.observe now service window
  | none => []

/-- A window of `augment_observations`: what is observed, over what the signal carries. -/
def augmentWindow (signal : LoadedDict) (observer : Option PrometheusObserver)
    (now service window : String) : Except PyError LoadedDict := do
  let stub ← dictOf (valueAt signal window (.obj []))
  return liveWindow observer now service window ++ stub

def augmentObservations (signal : LoadedDict) (observer : Option PrometheusObserver)
    (now service : String) : Except PyError Observations := do
  let tenMinutes ← augmentWindow signal observer now service "10m"
  let thirtyMinutes ← augmentWindow signal observer now service "30m"
  match signal.lookup "24h" with
  | some day => return ⟨tenMinutes, thirtyMinutes, some (← dictOf day)⟩
  | none => return ⟨tenMinutes, thirtyMinutes, none⟩

def firstString (values : List (Option Loaded)) : Option String :=
  values.findSome? fun
    | some (.str text) => if text = "" then none else some text
    | _ => none

/-- `plan.get("parameters")`, if it is a dictionary. -/
def planParameters (plan : LoadedDict) : LoadedDict :=
  match plan.lookup "parameters" with
  | some (.obj members) => members
  | _ => []

def kubernetesFeedbackActions : List String :=
  ["rollback_deployment", "restart_deployment", "scale_deployment"]

def textAt (d : LoadedDict) (key : String) : Option String :=
  match d.lookup key with
  | some (.str text) => some text
  | _ => none

/-- `_should_collect_kubernetes_feedback`. -/
def shouldCollect (decision : FeedbackDecision) (execution : FeedbackExecution) : Bool :=
  execution.status == "succeeded" &&
    (match execution.externalRefs.lookup "live_execution" with
      | some (.bool true) => true
      | _ => false) &&
    textAt decision.executionPlan "system" == some "kubernetes_service" &&
    ((textAt decision.executionPlan "action").any kubernetesFeedbackActions.contains)

variable (trigger : FeedbackTrigger)

/-- `_kubernetes_feedback_scope`. -/
def feedbackScope (decision : FeedbackDecision)
    (execution : FeedbackExecution) : FeedbackScope :=
  let parameters := planParameters decision.executionPlan
  let refs := execution.externalRefs
  let related := trigger.relatedContext
  { deploymentName := firstString [refs.lookup "deployment_name",
      parameters.lookup "deployment_name", related.lookup "deployment_name"]
    namespaceName := firstString [parameters.lookup "namespace", related.lookup "namespace",
      some (.str "default")]
    kubeContext := firstString [refs.lookup "kube_context", parameters.lookup "kube_context",
      related.lookup "kube_context"]
    cluster := firstString [parameters.lookup "cluster", related.lookup "cluster"] }

/-- `_live_kubernetes_observations`: what is collected, if anything is. -/
def liveDeployment (observer : Option KubernetesObserver) (trigger : FeedbackTrigger)
    (decision : FeedbackDecision) (execution : FeedbackExecution) : Option LiveDeployment := do
  let collect ← observer
  let scope := feedbackScope trigger decision execution
  if shouldCollect decision execution && scope.deploymentName.isSome &&
      scope.namespaceName.isSome then collect scope
  else none

/-- `_kubernetes_signal_to_observation`. -/
def LiveDeployment.observation (live : LiveDeployment) : LoadedDict :=
  [("rollout_status", .str live.rolloutStatus), ("desired_replicas", .int live.desiredReplicas),
    ("ready_replicas", .int live.readyReplicas), ("restart_delta", .int live.restartDelta),
    ("new_error_signatures", .arr (live.newErrorSignatures.map .str)),
    ("observed_time_to_effect", .str live.observedTimeToEffect),
    ("measured_at", .str live.measuredAt), ("source", .str "live_kubernetes_reharvest")]

/-- `_merge_observations`, with what was collected of a deployment. -/
def mergeObservations (base : Observations) (live : Option LiveDeployment) : Observations :=
  match live with
  | some live => { base with thirtyMinutes := live.observation ++ base.thirtyMinutes }
  | none => base

variable (window : LoadedDict)

def liveSource : Bool :=
  (textAt window "source").any ["prometheus", "live_kubernetes_reharvest"].contains

def hasLiveFeedbackSource (observations : Observations) : Bool :=
  liveSource observations.tenMinutes || liveSource observations.thirtyMinutes ||
    observations.day.any liveSource

def executionReview (execution : FeedbackExecution) : Option (String × LoadedDict) :=
  ["hermes_review", "goose_review"].findSome? fun source =>
    match execution.externalRefs.lookup source with
    | some (.obj review) => some (source, review)
    | _ => none

def reviewEffects (execution : FeedbackExecution) : List Loaded :=
  match executionReview execution with
  | some (source, review) =>
    if review.isEmpty then []
    else [.obj [("source", .str source), ("risk_flags", valueAt review "risk_flags" (.arr []))]]
  | none => []

/-- `_live_feedback_required_record`. -/
def liveFeedbackRequired (now : String) : FeedbackRecord where
  measuredAt := now
  outcome := "escalated"
  metricComparison :=
    [("live_feedback_required", .bool true), ("live_feedback_source_present", .bool false)]
  sideEffects := [.str "pilot feedback requires Prometheus or Kubernetes re-harvest"]
  recommendedFollowUp := some "human_review"

def gated (service : FeedbackService) (execution : FeedbackExecution)
    (observations : Observations) : Bool :=
  service.requireLiveObservations && execution.status == "succeeded" &&
    !hasLiveFeedbackSource observations

/-- `FeedbackRecord(...)` and its validation: the time must be a text. -/
def validated (measuredAt : Loaded) (outcome : String) (metricComparison : LoadedDict)
    (sideEffects : List Loaded) (recommendedFollowUp : Option String) :
    Except PyError FeedbackRecord :=
  match measuredAt with
  | .str measuredAt =>
    .ok ⟨measuredAt, outcome, metricComparison, sideEffects, recommendedFollowUp⟩
  | value =>
    .error ⟨.schemaValidationError,
      "measured_at must be of type string, got " ++ value.typeName⟩

/-- `check_30m.get("side_effects", []) + [...]`. -/
def sideEffectsOf (execution : FeedbackExecution) :
    Except PyError (List Loaded) :=
  match valueAt window "side_effects" (.arr []) with
  | .arr items => .ok (items ++ reviewEffects execution)
  | value =>
    typeError ("unsupported operand type(s) for +: '" ++ value.typeName ++ "' and 'list'")

def metricValue : Option Number → Loaded
  | none => .null
  | some (.int n) => .int n
  | some (.float x) => .float x

/-- A comparison with a number, where neither side is `None`. -/
def compareWith (compare : Binary64 → Binary64 → Bool) (value : Loaded)
    (bound : Option Binary64) : Except PyError Bool :=
  match value, bound with
  | .null, _ | _, none => .ok false
  | value, some bound =>
    match value.number? with
    | some x => .ok (compare x bound)
    | none => typeError ("'<' not supported between instances of '" ++ value.typeName ++
        "' and 'float'")

def safeLt (value : Loaded) (bound : Option Number) : Except PyError Bool :=
  compareWith Binary64.lt value (bound.map Number.exact)

/-- `_safe_le`; two `None` compare. -/
def safeLe (value : Loaded) (bound : Option Binary64) : Except PyError Bool :=
  match value, bound with
  | .null, none => .ok true
  | value, bound => compareWith Binary64.le value bound

def safeMul (value : Option Number) (factor : Binary64) : Except PyError (Option Binary64) :=
  match value with
  | none => .ok none
  | some number => do return some ((← number.toDouble).mul factor)

/-- `a and b`, where `b` is looked at only if `a` holds. -/
def andThen (a b : Except PyError Bool) : Except PyError Bool := do
  if ← a then b else return false

/-- `improved_10m`. -/
def improved : Except PyError Bool :=
  andThen
    (safeLt (valueAt window "p95_latency_ms" (metricValue trigger.observedLatency))
      trigger.observedLatency)
    (safeLt (valueAt window "error_rate" (metricValue trigger.observedErrorRate))
      trigger.observedErrorRate)

/-- `successful_30m`. -/
def recovered (execution : FeedbackExecution) (window : LoadedDict) :
    Except PyError Bool :=
  if execution.status ≠ "succeeded" then .ok false
  else
    andThen
      (do safeLe (valueAt window "p95_latency_ms" (metricValue trigger.observedLatency))
            (← safeMul trigger.baselineLatency 1.10))
      (andThen
        (do safeLe (valueAt window "error_rate" (metricValue trigger.observedErrorRate))
              (← safeMul trigger.baselineErrorRate 1.20))
        (.ok (isZero (valueAt window "new_severe_incidents" (.int 0)))))

/-- `regressions_last_7d >= 3`. -/
def manyRegressions : Except PyError Bool :=
  let regressions := valueAt trigger.relatedContext "regressions_last_7d" (.int 0)
  match regressions.number? with
  | some x => .ok (Binary64.le (.finite 3) x)
  | none => typeError ("'>=' not supported between instances of '" ++ regressions.typeName ++
      "' and 'int'")

def judge (decision : FeedbackDecision)
    (execution : FeedbackExecution) (window : LoadedDict) (improved10 successful30 : Bool) :
    Except PyError (String × String) :=
  if execution.status ≠ "succeeded" then .ok ("escalated", "human_review")
  else if !improved10 then .ok ("escalated", "human_review")
  else if decision.decisionType == "disable_flag" &&
      (valueAt window "business_guardrail_breached" (.bool false)).truthy then
    .ok ("rolled_back", "restore_prior_rollout_and_escalate")
  else if !successful30 then .ok ("unsuccessful", "human_review")
  else do
    if ← manyRegressions trigger then
      return ("successful", "mark_flag_for_human_owned_remediation")
    else return ("successful", "record_positive_outcome")

section

variable (service : FeedbackService) (reading : TextReading) (now : String)
  (trigger : FeedbackTrigger) (decision : FeedbackDecision) (execution : FeedbackExecution)
  (signal : LoadedDict)

/-- The part of `record` for the metrics of a service. -/
def recordMetrics : Except PyError FeedbackRecord := do
  let observations ← augmentObservations signal service.observer now trigger.service
  let check30 := observations.thirtyMinutes
  let improved10 ← improved trigger observations.tenMinutes
  let successful30 ← recovered trigger execution check30
  let (outcome, followUp) ← judge trigger decision execution check30 improved10 successful30
  if gated service execution observations then return liveFeedbackRequired now
  else
    validated (valueAt check30 "measured_at" (.str now)) outcome
      [("baseline_p95_latency_ms", metricValue trigger.baselineLatency),
        ("post_action_p95_latency_ms",
          valueAt check30 "p95_latency_ms" (metricValue trigger.observedLatency)),
        ("baseline_error_rate", metricValue trigger.baselineErrorRate),
        ("post_action_error_rate",
          valueAt check30 "error_rate" (metricValue trigger.observedErrorRate))]
      (← sideEffectsOf check30 execution) (some followUp)

/-- `_record_kubernetes_feedback`. -/
def recordKubernetes : Except PyError FeedbackRecord := do
  let augmented ← augmentObservations signal service.observer now trigger.service
  let observations := mergeObservations augmented
    (liveDeployment service.kubernetesObserver trigger decision execution)
  let check30 := observations.thirtyMinutes
  let desired ← intOf reading
    (valueAt check30 "desired_replicas" (.int (trigger.desiredReplicas.getD 0)))
  let ready ← intOf reading (valueAt check30 "ready_replicas" (.int 0))
  let restartDelta ← intOf reading
    (valueAt check30 "restart_delta" (.int (trigger.restartCountTotal.getD 0)))
  let newErrorSignatures ← listOf (valueAt check30 "new_error_signatures" (.arr []))
  let successful := execution.status == "succeeded" &&
    (textAt check30 "rollout_status" == some "healthy") && decide (desired ≤ ready) &&
    restartDelta == 0 && newErrorSignatures.isEmpty
  if gated service execution observations then return liveFeedbackRequired now
  else
    validated (valueAt check30 "measured_at" (.str now))
      (if successful then "successful" else "escalated")
      [("desired_replicas", .int desired), ("ready_replicas", .int ready),
        ("restart_delta", .int restartDelta),
        ("rollout_status", valueAt check30 "rollout_status" (.str "unknown"))]
      (newErrorSignatures ++ reviewEffects execution)
      (some (if successful then "record_rollout_recovery" else "human_review"))

/-- `_record_webhook_feedback`. -/
def recordWebhook : Except PyError FeedbackRecord := do
  let observations ← augmentObservations signal service.observer now trigger.service
  let check30 := observations.thirtyMinutes
  let incidentId := valueAt execution.externalRefs "incident_id" .null
  let successful := execution.status == "succeeded" && incidentId.truthy
  if gated service execution observations then return liveFeedbackRequired now
  else
    validated (valueAt check30 "measured_at" (.str now))
      (if successful then "successful" else "escalated")
      [("incident_opened", .bool successful), ("incident_id", incidentId),
        ("severity", valueAt trigger.relatedContext "severity" .null)]
      (← sideEffectsOf check30 execution) (if successful then none else some "human_review")

/-- `record`, for an event with these `post_action_observations`. -/
def record : Except PyError FeedbackRecord :=
  if trigger.triggerType = "kubernetes_deployment_unhealthy" then
    recordKubernetes service reading now trigger decision execution signal
  else if trigger.triggerType = "webhook_alert_firing" then
    recordWebhook service now trigger execution signal
  else recordMetrics service now trigger decision execution signal

end

end OrbitalMesh.Feedback
