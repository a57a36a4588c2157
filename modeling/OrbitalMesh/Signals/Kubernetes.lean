import OrbitalMesh.Decision.Advice
import OrbitalMesh.Signals.Envelope

/-!
# Signals about Kubernetes deployments

The path of a raw `kubernetes_deployment_issue` through `IngestService` and
`TriggerService`: logs, events and pods are summed up into signatures, and a signal
that shows something to act on becomes a trigger.
-/

namespace OrbitalMesh.Signals

open OrbitalMesh.Decision

/-- `deployment` in `kubernetes-signal.schema.json`. -/
def deploymentSchema : Schema :=
  Schema.record
    ["name", "revision", "image", "rollout_started_at", "rollout_status", "desired_replicas",
     "updated_replicas", "available_replicas"]
    [("name", .text), ("revision", .text), ("image", .text), ("rollout_started_at", .text),
     ("rollout_status", .textIn ["healthy", "progressing", "degraded", "failed"]),
     ("desired_replicas", { types := [.integer] }), ("updated_replicas", { types := [.integer] }),
     ("available_replicas", { types := [.integer] }),
     ("last_deploy_timestamp", { types := [.string, .null] }),
     ("seconds_since_deploy", { types := [.integer, .null] })]

/-- `pods.items` in `kubernetes-signal.schema.json`. -/
def podSchema : Schema :=
  Schema.record ["name", "phase", "ready", "restarts", "container_status"]
    [("name", .text), ("phase", .text), ("ready", { types := [.boolean] }),
     ("restarts", { types := [.integer] }), ("container_status", .text),
     ("last_state_reason", { types := [.string, .null] })]

/-- `events.items` in `kubernetes-signal.schema.json`. -/
def eventSchema : Schema :=
  Schema.record ["reason", "message", "count", "type"]
    [("reason", .text), ("message", .text), ("count", { types := [.integer] }), ("type", .text)]

/-- `logs.items` in `kubernetes-signal.schema.json`. -/
def logSchema : Schema :=
  Schema.record ["pod", "container", "stream", "message"]
    [("pod", .text), ("container", .text), ("stream", .text), ("message", .text)]

/-- `kubernetes-signal.schema.json`. -/
def kubernetesSignalSchema : Schema :=
  Schema.record
    ["signal_type", "signal_id", "observed_at", "environment", "cluster", "namespace", "service",
     "deployment", "pods", "events", "logs"]
    [("signal_type", .textIn ["kubernetes_deployment_issue"]), ("signal_id", .text),
     ("observed_at", .text), ("environment", .text), ("cluster", .text), ("namespace", .text),
     ("service", .text), ("deployment", deploymentSchema), ("pods", .listOf podSchema 0),
     ("events", .listOf eventSchema 0), ("logs", .listOf logSchema 0),
     ("related_context", .object), ("post_action_observations", .object)]

/-- `value.lower()`, as far as texts of ASCII can be found in it. -/
def loweredText (value : String) : List Char := value.toList.flatMap lowered

def containsAny (values needles : List String) : Bool :=
  values.any fun value => needles.any fun needle =>
    decide (loweredText needle <:+: loweredText value)

def logSignatures (messages eventTexts : List String) (pods : List Dict) : List String :=
  let all := messages ++ eventTexts
  (if containsAny all ["CrashLoopBackOff", "Back-off restarting failed container"] then
    ["crash_loop"] else []) ++
  (if containsAny all ["ImagePullBackOff", "ErrImagePull"] then ["image_pull_failure"] else []) ++
  (if containsAny all ["OOMKilled", "Killed process out of memory"] then
    ["oom_killed"] else []) ++
  (if containsAny all ["Readiness probe failed", "Liveness probe failed", "Unhealthy"] then
    ["probe_failure"] else []) ++
  (if containsAny messages ["ModuleNotFoundError", "ImportError", "SyntaxError", "panic:",
      "Exception in thread"] then ["application_error"] else []) ++
  (if containsAny messages ["connection refused", "timed out", "i/o timeout", "dial tcp"] then
    ["dependency_connectivity"] else []) ++
  (if pods.any fun pod => decide (3 ≤ wholeAt pod "restarts") then ["high_restart_rate"] else [])

def categoryOf : String → String
  | "crash_loop" => "runtime"
  | "image_pull_failure" => "supply_chain"
  | "oom_killed" => "resources"
  | "probe_failure" => "platform"
  | "application_error" => "application"
  | "dependency_connectivity" => "dependency"
  | _ => "runtime"

/-- `_unique`. -/
def uniqueTexts (values : List String) : List String := values.reverse.dedup.reverse

def likelyLayer (signatures : List String) : String :=
  if signatures.contains "image_pull_failure" then "supply_chain"
  else if signatures.contains "oom_killed" || signatures.contains "probe_failure" then "platform"
  else if signatures.contains "application_error" then "application"
  else if signatures.contains "dependency_connectivity" then "dependency"
  else if signatures.contains "crash_loop" then "runtime"
  else "unknown"

def textList (texts : List String) : Json := .arr (texts.map .str)

def summarizeKubernetesLogs (logs events pods : List Dict) : Dict :=
  let messages := logs.map fun entry => textAt entry "message"
  let eventTexts := events.map fun event => textAt event "reason" ++ ": " ++ textAt event "message"
  let signatures := uniqueTexts (logSignatures messages eventTexts pods)
  let categories := uniqueTexts ((logSignatures messages eventTexts pods).map categoryOf)
  let reasons := (events.map fun event => textAt event "reason").filter fun r => !r.isEmpty
  [("primary_symptom", .str (signatures.head?.getD "unknown")),
   ("error_signatures", textList signatures),
   ("categories", textList categories),
   ("likely_layer", .str (likelyLayer signatures)),
   ("sample_lines", textList ((messages.take 3).filter fun line => !line.isEmpty)),
   ("event_reasons", textList (uniqueTexts reasons)),
   ("restart_count_total", .int (pods.map fun pod => wholeAt pod "restarts").sum)]

/-- The context that a signal about a deployment starts from. -/
def kubernetesContextDefaults : Dict :=
  [("active_suppression", .bool false), ("incident_owned_by_human", .bool false),
   ("known_upstream_outage", .bool false), ("active_incidents", .int 0),
   ("similar_prior_cases", .int 0), ("rollbacks_last_24h", .int 0),
   ("cluster_access_available", .bool true)]

variable (store : LearningStore) (raw : Dict)

/-- The context of a signal about a deployment.  The schema knows no `endpoint`. -/
def kubernetesContext : Dict :=
  enrichFromLearning store (kubernetesContextDefaults.update (objectAt raw "related_context"))
    (textAt raw "service") none

def kubernetesEnvelope : EventEnvelope :=
  let deployment := objectAt raw "deployment"
  let revision := textAt deployment "revision"
  let logSummary := summarizeKubernetesLogs (objectsAt raw "logs") (objectsAt raw "events")
    (objectsAt raw "pods")
  { objectId := textAt raw "signal_id"
    emittedAt := textAt raw "observed_at"
    payload :=
      [("signal_type", .str "kubernetes_deployment_issue"),
       ("environment", getOr raw "environment" .null),
       ("service", getOr raw "service" .null),
       ("endpoint", .str ("deployment/" ++ textAt deployment "name")),
       ("cluster", getOr raw "cluster" .null),
       ("namespace", getOr raw "namespace" .null),
       ("comparison_window", .obj
          [("baseline", .str ("revision:" ++ revision ++ "-1")),
           ("observed", .str ("revision:" ++ revision))]),
       ("segment", .obj
          [("customer_tier", .str "system"), ("region", getOr raw "cluster" .null)]),
       ("deployment", .obj deployment),
       ("pods", getOr raw "pods" .null),
       ("events", getOr raw "events" .null),
       ("logs", getOr raw "logs" .null),
       ("log_summary", .obj logSummary),
       ("related_context", .obj (kubernetesContext store raw)),
       ("post_action_observations", getOr raw "post_action_observations" (.obj []))] }

/-- `normalize_signal`, for a signal about a deployment. -/
def normalizeKubernetesSignal :
    Except PyError EventEnvelope := do
  validatePayload kubernetesSignalSchema (.obj raw)
  return kubernetesEnvelope store raw

def activelyFailingContainerStates : List String :=
  ["CrashLoopBackOff", "ImagePullBackOff", "ErrImagePull", "OOMKilled", "Error",
   "ContainerCannotRun", "CreateContainerConfigError", "CreateContainerError"]

def hardErrorSignatures : List String :=
  ["crash_loop", "image_pull_failure", "oom_killed", "application_error"]

def kubernetesSignalIsActionable (deployment : Dict) (pods : List Dict) (signatures : List String)
    (context : Dict) : Bool :=
  let rolloutStatus := textAt deployment "rollout_status"
  let failing (pod : Dict) :=
    decide (0 < wholeAt pod "restarts") ||
      activelyFailingContainerStates.contains (textAt pod "container_status")
  let unready (pod : Dict) :=
    textAt pod "phase" == "Running" && textAt pod "container_status" == "Running" &&
      getOr pod "ready" .null == .bool false
  flagAt context "configuration_drift" false ||
    (rolloutStatus == "degraded" && signatures.contains "probe_failure" && pods.any unready) ||
    rolloutStatus == "failed" || pods.any failing ||
    (rolloutStatus == "degraded" && hardErrorSignatures.any signatures.contains)

def triggerSignals (signatures : List String) (context : Dict) : List String :=
  let drift := if flagAt context "configuration_drift" false &&
    !signatures.contains "configuration_drift" then ["configuration_drift"] else []
  let pressure := if flagAt context "resource_pressure" false &&
    !(signatures ++ drift).contains "oom_killed" then ["oom_killed"] else []
  signatures ++ drift ++ pressure

/-- What detection itself says in the context; the client's own members come after. -/
def detectedKubernetesContext (payload deployment logSummary : Dict) (signals : List String)
    (context : Dict) : Dict :=
  [("release_id", getOr deployment "revision" .null),
   ("active_incidents", getOr context "active_incidents" (.int 0)),
   ("similar_prior_cases", getOr context "similar_prior_cases" (.int 0)),
   ("rollbacks_last_24h", getOr context "rollbacks_last_24h" (.int 0)),
   ("cluster", getOr payload "cluster" .null),
   ("namespace", getOr payload "namespace" .null),
   ("deployment_name", getOr deployment "name" .null),
   ("deployment_image", getOr deployment "image" .null),
   ("rollout_status", getOr deployment "rollout_status" .null),
   ("error_signatures", textList signals),
   ("likely_layer", getOr logSummary "likely_layer" .null),
   ("event_reasons", getOr logSummary "event_reasons" (.arr [])),
   ("primary_symptom", getOr logSummary "primary_symptom" .null),
   ("log_summary", .obj logSummary),
   ("last_deploy_timestamp", getOr deployment "last_deploy_timestamp" .null),
   ("seconds_since_deploy", getOr deployment "seconds_since_deploy" .null)]

variable (envelope : EventEnvelope)

def kubernetesTrigger : Trigger :=
  let payload := envelope.payload
  let deployment := objectAt payload "deployment"
  let context := objectAt payload "related_context"
  let logSummary := objectAt payload "log_summary"
  let signals :=
    triggerSignals ((itemsAt logSummary "error_signatures").map Json.asStr) context
  { triggerId := "trg_" ++ envelope.objectId
    triggerType := "kubernetes_deployment_unhealthy"
    triggeredAt := envelope.emittedAt
    environment := textAt payload "environment"
    service := textAt payload "service"
    endpoint := "deployment/" ++ textAt deployment "name"
    flagKey := none
    currentRolloutPct := none
    comparisonWindow := some (objectAt payload "comparison_window")
    segment := objectAt payload "segment"
    metrics :=
      [("baseline_p95_latency_ms", .null), ("observed_p95_latency_ms", .null),
       ("baseline_error_rate", .null), ("observed_error_rate", .null),
       ("baseline_timeout_rate", .null), ("observed_timeout_rate", .null),
       ("sample_size", .null),
       ("restart_count_total", getOr logSummary "restart_count_total" (.int 0)),
       ("desired_replicas", getOr deployment "desired_replicas" .null),
       ("available_replicas", getOr deployment "available_replicas" .null)]
    relatedContext :=
      (detectedKubernetesContext payload deployment logSummary signals context).update context }

def kubernetesActedOn : Bool :=
  let payload := envelope.payload
  let context := objectAt payload "related_context"
  let logSummary := objectAt payload "log_summary"
  !suppressed context &&
    kubernetesSignalIsActionable (objectAt payload "deployment") (objectsAt payload "pods")
      ((itemsAt logSummary "error_signatures").map Json.asStr) context

def detectKubernetesTrigger : Except PyError (Option Trigger) :=
  if kubernetesActedOn envelope then do
    validateTrigger (kubernetesTrigger envelope)
    return some (kubernetesTrigger envelope)
  else .ok none

theorem kubernetesContext_distinct : (kubernetesContext store raw).Distinct := by
  refine enrichFromLearning_distinct (Dict.Distinct.update ?_ _) _ _ _
  simp [Dict.Distinct, kubernetesContextDefaults]

/-- The summary that the envelope of a signal carries. -/
def logSummaryOf : Dict :=
  summarizeKubernetesLogs (objectsAt raw "logs") (objectsAt raw "events") (objectsAt raw "pods")

theorem kubernetesTrigger_context :
    (kubernetesTrigger (kubernetesEnvelope store raw)).relatedContext =
      (detectedKubernetesContext
        [("cluster", getOr raw "cluster" .null), ("namespace", getOr raw "namespace" .null)]
        (objectAt raw "deployment") (logSummaryOf raw)
        (triggerSignals ((itemsAt (logSummaryOf raw) "error_signatures").map Json.asStr)
          (kubernetesContext store raw))
        (kubernetesContext store raw)).update (kubernetesContext store raw) := by
  simp [kubernetesTrigger, kubernetesEnvelope, detectedKubernetesContext, objectAt, getOr,
    Dict.get?_cons, Json.asObj?, logSummaryOf]

variable {keys : List String}

theorem detectedKubernetesContext_agrees {context context' : Dict}
    (hcontext : Dict.AgreeOff keys context context') (hkeys : enrichedKeys ⊆ keys)
    (hincidents : "active_incidents" ∉ keys) (payload deployment logSummary : Dict)
    (signals : List String) :
    Dict.AgreeOff keys (detectedKubernetesContext payload deployment logSummary signals context)
      (detectedKubernetesContext payload deployment logSummary signals context') := by
  intro key hkey
  have hcases : key ≠ "similar_prior_cases" :=
    fun heq => hkey (hkeys (heq ▸ by simp [enrichedKeys]))
  have hrollbacks : key ≠ "rollbacks_last_24h" :=
    fun heq => hkey (hkeys (heq ▸ by simp [enrichedKeys]))
  simp only [detectedKubernetesContext, Dict.get?_cons, if_neg hcases, if_neg hrollbacks,
    getOr_of_agree hcontext hincidents]

/-- **Signals that agree** but in their contexts, which agree away from some keys, have triggers
whose contexts agree so. -/
theorem kubernetesTrigger_agrees {store store' : LearningStore} {raw raw' : Dict}
    (hraw : Dict.AgreeOff ["related_context"] raw raw')
    (hcontext : Dict.AgreeOff keys (kubernetesContext store raw) (kubernetesContext store' raw'))
    (hkeys : enrichedKeys ⊆ keys)
    (hread : ∀ key ∈ ["active_incidents", "configuration_drift", "resource_pressure"], key ∉ keys) :
    Dict.AgreeOff keys (kubernetesTrigger (kubernetesEnvelope store raw)).relatedContext
      (kubernetesTrigger (kubernetesEnvelope store' raw')).relatedContext := by
  have hdrift := getOr_of_agree hcontext (hread "configuration_drift" (by simp)) (.bool false)
  have hpressure := getOr_of_agree hcontext (hread "resource_pressure" (by simp)) (.bool false)
  have hsummary : logSummaryOf raw = logSummaryOf raw' := by
    rw [logSummaryOf, logSummaryOf, objectsAt_of_agree hraw (by simp),
      objectsAt_of_agree hraw (by simp), objectsAt_of_agree hraw (by simp)]
  rw [kubernetesTrigger_context, kubernetesTrigger_context, ← hsummary,
    ← objectAt_of_agree hraw (by simp), ← getOr_of_agree hraw (by simp),
    ← getOr_of_agree hraw (by simp)]
  refine Dict.AgreeOff.update_both ?_ hcontext (kubernetesContext_distinct _ _)
    (kubernetesContext_distinct _ _)
  have hsignals : ∀ signatures, triggerSignals signatures (kubernetesContext store raw) =
      triggerSignals signatures (kubernetesContext store' raw') := by
    intro signatures
    unfold triggerSignals flagAt
    rw [hdrift, hpressure]
  rw [hsignals]
  exact detectedKubernetesContext_agrees hcontext hkeys (hread "active_incidents" (by simp)) _ _ _ _

end OrbitalMesh.Signals
