import OrbitalMesh.Signals.Kubernetes
import OrbitalMesh.Signals.RethHazards

/-!
# Deployments that are watched

`KubernetesWatcher` looks at the raw signal that `collect_kubernetes_signal` puts
together, with the same predicate that `TriggerService` applies to the normalised one.
Only the normalised signal has a summary of logs and events.
-/

namespace OrbitalMesh.Signals

open OrbitalMesh.Decision

/-- What `_rollout_status` reads of a deployment. -/
structure RolloutReading where
  desired : Int := 1
  available : Int := 0
  updated : Int := 0
  /-- a `Progressing` condition with the reason `ProgressDeadlineExceeded` -/
  deadlineExceeded : Bool := false
  /-- the image is tagged `does-not-exist` -/
  imageMissing : Bool := false

/-- `_rollout_status`. -/
def RolloutReading.status (rollout : RolloutReading) : String :=
  if rollout.deadlineExceeded then "failed"
  else if rollout.desired = 0 then "healthy"
  else if 0 < rollout.desired ∧ rollout.desired ≤ rollout.available ∧
      rollout.desired ≤ rollout.updated then "healthy"
  else if rollout.available = 0 ∧ rollout.updated < rollout.desired then
    if rollout.imageMissing then "failed" else "degraded"
  else "degraded"

/-- A pod, in `_summarize_pod`; whatever kubectl answered is not checked. -/
structure PodReading where
  name : Json
  phase : Json
  ready : Bool
  restarts : Int
  waitingReason : Json := .null
  lastStateReason : Json := .null

def PodReading.member (pod : PodReading) : Dict :=
  [("name", pod.name), ("phase", pod.phase), ("ready", .bool pod.ready),
   ("restarts", .int pod.restarts), ("container_status", pyOr pod.waitingReason pod.phase),
   ("last_state_reason", pod.lastStateReason)]

/-- What the caller says about a patch, where all of it is given. -/
structure PatchFields where
  repoPath : String
  suspectedFile : String
  allowedPaths : List String
  testCommands : List String
  targetFile : String
  find : String
  replace : String

/-- The members that `_related_context` adds for a patch. -/
def PatchFields.members (patch : PatchFields) : Dict :=
  [("repo_path", .str patch.repoPath), ("suspected_file", .str patch.suspectedFile),
   ("allowed_paths", textList patch.allowedPaths),
   ("test_commands", textList patch.testCommands),
   ("patch_template", .obj [("target_file", .str patch.targetFile), ("find", .str patch.find),
     ("replace", .str patch.replace)])]

/-- What `collect_kubernetes_signal` has read and was told. -/
structure ClusterReading where
  signalId : String
  observedAt : String
  environment : String
  cluster : String
  kubeContext : String
  namespaceName : String
  service : String
  deploymentName : String
  revision : String
  image : String
  rolloutStartedAt : String
  secondsSinceDeploy : Option Int
  rollout : RolloutReading
  pods : List PodReading
  /-- reason, message, count and type of each event -/
  events : List Dict
  /-- pod, container, stream and message of each line -/
  logs : List Dict
  patch : Option PatchFields := none
  /-- `_configuration_drift_signals` -/
  configurationDrift : List Json := []
  /-- `_resource_pressure_signals` -/
  resourcePressure : List Json := []

namespace ClusterReading

variable (reading : ClusterReading)

def listMember (key : String) (items : List Json) : Dict :=
  if items = [] then [] else [(key, .arr items)]

/-- `related_context` of the signal. -/
def relatedContext : Dict :=
  [("active_incidents", .int 0), ("similar_prior_cases", .int 0), ("rollbacks_last_24h", .int 0),
   ("cluster_access_available", .bool true), ("audit_logging_available", .bool true),
   ("kube_context", .str reading.kubeContext),
   ("code_remediation_candidate", .bool reading.patch.isSome)] ++
  (reading.patch.map PatchFields.members).getD [] ++
  listMember "configuration_drift" reading.configurationDrift ++
  listMember "resource_pressure" reading.resourcePressure

/-- `deployment` of the signal. -/
def deployment : Dict :=
  [("name", .str reading.deploymentName), ("revision", .str reading.revision),
   ("image", .str reading.image), ("rollout_started_at", .str reading.rolloutStartedAt),
   ("rollout_status", .str reading.rollout.status),
   ("desired_replicas", .int reading.rollout.desired),
   ("updated_replicas", .int reading.rollout.updated),
   ("available_replicas", .int reading.rollout.available),
   ("last_deploy_timestamp", .str reading.rolloutStartedAt),
   ("seconds_since_deploy", (reading.secondsSinceDeploy.map Json.int).getD .null)]

/-- `collect_kubernetes_signal`, once kubectl has answered. -/
def signal : Dict :=
  [("signal_type", .str "kubernetes_deployment_issue"), ("signal_id", .str reading.signalId),
   ("observed_at", .str reading.observedAt), ("environment", .str reading.environment),
   ("cluster", .str reading.cluster), ("namespace", .str reading.namespaceName),
   ("service", .str reading.service), ("deployment", .obj reading.deployment),
   ("pods", .arr (reading.pods.map fun pod => .obj pod.member)),
   ("events", .arr (reading.events.map .obj)), ("logs", .arr (reading.logs.map .obj)),
   ("related_context", .obj reading.relatedContext), ("post_action_observations", .obj [])]

end ClusterReading

def signaturesIn (logSummary : Dict) : List String :=
  (itemsAt logSummary "error_signatures").map Json.asStr

/-- `KubernetesWatcher._is_actionable`. -/
def watcherIsActionable (raw : Dict) : Bool :=
  kubernetesSignalIsActionable (objectAt raw "deployment") (objectsAt raw "pods")
    (signaturesIn (objectAt raw "log_summary")) (objectAt raw "related_context")

variable (store : LearningStore)

/-- `detect(normalize_signal(raw))`. -/
def detectRaw (raw : Dict) : Except PyError (Option Trigger) := do
  detectKubernetesTrigger (← normalizeKubernetesSignal store raw)

variable (reading : ClusterReading)

/-- A deployment in trouble that only the summary of logs and events shows. -/
structure Overlooked : Prop where
  degraded : reading.rollout.status = "degraded"
  noDrift : reading.configurationDrift = []
  noFailure : ∀ pod ∈ reading.pods, pod.restarts ≤ 0 ∧
    textAt pod.member "container_status" ∉ activelyFailingContainerStates
  shown : (∃ signature ∈ hardErrorSignatures,
      signature ∈ signaturesIn (logSummaryOf reading.signal)) ∨
    ("probe_failure" ∈ signaturesIn (logSummaryOf reading.signal) ∧
      ∃ pod ∈ reading.pods, textAt pod.member "phase" = "Running" ∧
        textAt pod.member "container_status" = "Running" ∧ pod.ready = false)

theorem relatedContext_distinct : reading.relatedContext.Distinct := by
  unfold ClusterReading.relatedContext ClusterReading.listMember
  cases reading.patch <;> split <;> split <;> simp [Dict.Distinct, PatchFields.members]

def collectedKeys : List String :=
  ["active_incidents", "similar_prior_cases", "rollbacks_last_24h", "cluster_access_available",
   "audit_logging_available", "kube_context", "code_remediation_candidate", "repo_path",
   "suspected_file", "allowed_paths", "test_commands", "patch_template", "configuration_drift",
   "resource_pressure"]

variable {key : String}

theorem relatedContext_get?_of_not_mem (h : key ∉ collectedKeys) :
    reading.relatedContext.get? key = none := by
  simp only [collectedKeys, List.mem_cons, List.not_mem_nil, or_false, not_or] at h
  unfold ClusterReading.relatedContext ClusterReading.listMember
  cases reading.patch <;> split <;> split <;>
    simp [Dict.get?, PatchFields.members, List.lookup_cons, h, beq_false_of_ne]

theorem relatedContext_drift :
    flagAt reading.relatedContext "configuration_drift" false =
      !reading.configurationDrift.isEmpty := by
  unfold ClusterReading.relatedContext ClusterReading.listMember
  cases reading.patch <;> cases reading.configurationDrift <;>
    cases reading.resourcePressure <;>
    simp [flagAt, getOr, Dict.get?, PatchFields.members, List.lookup_cons, truthy]

theorem signal_relatedContext :
    objectAt reading.signal "related_context" = reading.relatedContext := by
  simp [objectAt, ClusterReading.signal, Dict.get?_cons, Json.asObj?]

theorem context_get? (reading : ClusterReading) (hkey : key ∉ enrichedKeys) :
    (kubernetesContext store reading.signal).get? key =
      (reading.relatedContext.get? key).or (kubernetesContextDefaults.get? key) := by
  have henriched := enrichFromLearning_agrees (List.Subset.refl enrichedKeys) store
    (kubernetesContextDefaults.update (objectAt reading.signal "related_context"))
    (textAt reading.signal "service") none key hkey
  unfold kubernetesContext
  rw [← henriched, signal_relatedContext]
  cases hfound : reading.relatedContext.get? key with
  | none => rw [Dict.get?_update_of_none _ _ _ hfound, Option.none_or]
  | some value =>
    rw [Dict.get?_update_of_some (relatedContext_distinct reading) _ hfound, Option.some_or]

theorem context_drift (reading : ClusterReading) :
    flagAt (kubernetesContext store reading.signal) "configuration_drift" false =
      !reading.configurationDrift.isEmpty := by
  rw [← relatedContext_drift, flagAt, flagAt, getOr, getOr,
    context_get? store reading (by decide)]
  simp [kubernetesContextDefaults, Dict.get?_cons]

theorem context_not_suppressed (reading : ClusterReading) :
    suppressed (kubernetesContext store reading.signal) = false := by
  have hflag (key : String) (henriched : key ∉ enrichedKeys) (hcollected : key ∉ collectedKeys)
      (hdefault : kubernetesContextDefaults.get? key = some (.bool false)) :
      flagAt (kubernetesContext store reading.signal) key false = false := by
    rw [flagAt, getOr, context_get? store reading henriched,
      relatedContext_get?_of_not_mem reading hcollected, Option.none_or, hdefault]
    rfl
  unfold suppressed
  rw [hflag "active_suppression" (by decide) (by decide) rfl,
    hflag "incident_owned_by_human" (by decide) (by decide) rfl,
    hflag "known_upstream_outage" (by decide) (by decide) rfl]
  rfl

theorem enrichMember_get? (context : Dict) (other key : String) (learned : Int) :
    (enrichMember context other learned).get? key = context.get? key ∨
      ∃ n : Int, (enrichMember context other learned).get? key = some (.int n) := by
  unfold enrichMember
  split
  · by_cases hkey : key = other
    · subst hkey
      exact .inr ⟨learned, Dict.get?_set_self _ _ _⟩
    · exact .inl (Dict.get?_set_of_ne _ _ hkey)
  · exact .inl rfl

theorem enrichFromLearning_get? (context : Dict) (service : String)
    (endpoint : Option String) (key : String) :
    (enrichFromLearning store context service endpoint).get? key = context.get? key ∨
      ∃ n : Int, (enrichFromLearning store context service endpoint).get? key = some (.int n) := by
  have hstep {d d' d'' : Dict}
      (h : d'.get? key = d.get? key ∨ ∃ n : Int, d'.get? key = some (.int n))
      (h' : d''.get? key = d'.get? key ∨ ∃ n : Int, d''.get? key = some (.int n)) :
      d''.get? key = d.get? key ∨ ∃ n : Int, d''.get? key = some (.int n) := by
    rcases h' with hsame | hint
    · rw [hsame]
      exact h
    · exact .inr hint
  unfold enrichFromLearning
  split
  · exact .inl rfl
  · split
    · exact .inl rfl
    · exact hstep (hstep (enrichMember_get? _ _ _ _) (enrichMember_get? _ _ _ _))
        (enrichMember_get? _ _ _ _)

theorem relatedContext_counts
    (hkey : key ∈ ["active_incidents", "similar_prior_cases", "rollbacks_last_24h"]) :
    reading.relatedContext.get? key = some (.int 0) := by
  simp only [List.mem_cons, List.not_mem_nil, or_false] at hkey
  unfold ClusterReading.relatedContext
  rcases hkey with rfl | rfl | rfl <;> simp [Dict.get?, List.lookup_cons]

/-- The counts in the context of the envelope: whole numbers, and the first three are
there. -/
theorem context_counts (reading : ClusterReading) :
    (∀ key ∈ countedMembers, ∀ value,
      (kubernetesContext store reading.signal).get? key = some value → ∃ n : Int, value = .int n) ∧
    ∀ key ∈ ["active_incidents", "similar_prior_cases", "rollbacks_last_24h"],
      ((kubernetesContext store reading.signal).get? key).isSome = true := by
  have hbase {key : String}
      (hkey : key ∈ ["active_incidents", "similar_prior_cases", "rollbacks_last_24h"]) :
      (kubernetesContextDefaults.update reading.relatedContext).get? key = some (.int 0) :=
    Dict.get?_update_of_some (relatedContext_distinct reading) _
      (relatedContext_counts reading hkey)
  have hregressions : (kubernetesContextDefaults.update reading.relatedContext).get?
      "regressions_last_7d" = none := by
    rw [Dict.get?_update_of_none _ _ _ (relatedContext_get?_of_not_mem reading (by decide))]
    rfl
  have henriched (key : String) := enrichFromLearning_get? store
    (kubernetesContextDefaults.update reading.relatedContext) (textAt reading.signal "service")
    none key
  unfold kubernetesContext
  rw [signal_relatedContext]
  constructor
  · intro key hkey value hfound
    rcases henriched key with hsame | ⟨n, hint⟩
    · rw [hsame] at hfound
      simp only [countedMembers, List.mem_cons, List.not_mem_nil, or_false] at hkey
      rcases hkey with rfl | rfl | rfl | rfl
      case inr.inr.inr =>
        rw [hregressions] at hfound
        cases hfound
      all_goals
        rw [hbase (by simp)] at hfound
        exact ⟨0, (Option.some.inj hfound).symm⟩
    · rw [hint] at hfound
      exact ⟨n, (Option.some.inj hfound).symm⟩
  · intro key hkey
    rcases henriched key with hsame | ⟨n, hint⟩
    · rw [hsame, hbase hkey]
      rfl
    · rw [hint]
      rfl

/-- **A collected signal never makes an invalid trigger.** -/
theorem validateTrigger_collected (reading : ClusterReading) :
    validateTrigger (kubernetesTrigger (kubernetesEnvelope store reading.signal)) = .ok () := by
  obtain ⟨hwhole, hthere⟩ := context_counts store reading
  have hdistinct := kubernetesContext_distinct store reading.signal
  have hrelease : (kubernetesContext store reading.signal).get? "release_id" = none := by
    rw [context_get? store reading (by decide), relatedContext_get?_of_not_mem reading (by decide)]
    rfl
  have hupdated (own : Dict) (key : String)
      (hkey : key ∈ ["active_incidents", "similar_prior_cases", "rollbacks_last_24h"]) :
      ∃ value, (kubernetesContext store reading.signal).get? key = some value ∧
        (own.update (kubernetesContext store reading.signal)).get? key = some value := by
    obtain ⟨value, hvalue⟩ := Option.isSome_iff_exists.mp (hthere key hkey)
    exact ⟨value, hvalue, Dict.get?_update_of_some hdistinct _ hvalue⟩
  rw [validateTrigger, kubernetesTrigger_context]
  have htext : [JsonType.string, .null].any (matchesType (.str reading.revision)) = true := rfl
  refine (triggerContext_valid_iff (Dict.Distinct.update ?_ _) ?_ ?_ ?_ ?_ _).mpr htext
  · simp [Dict.Distinct, detectedKubernetesContext]
  · rw [Dict.get?_update_of_none _ _ _ hrelease]
    simp [detectedKubernetesContext, Dict.get?_cons, getOr, objectAt, ClusterReading.signal,
      ClusterReading.deployment, Json.asObj?]
  · obtain ⟨value, -, hvalue⟩ := hupdated _ "active_incidents" (by simp)
    rw [hvalue]
    rfl
  · obtain ⟨value, -, hvalue⟩ := hupdated _ "similar_prior_cases" (by simp)
    rw [hvalue]
    rfl
  · intro key hkey value hfound
    cases hown : (kubernetesContext store reading.signal).get? key with
    | some other =>
      rw [Dict.get?_update_of_some hdistinct _ hown] at hfound
      exact hwhole key hkey value (hown.trans hfound)
    | none =>
      rw [Dict.get?_update_of_none _ _ _ hown] at hfound
      by_cases hfirst : key ∈ ["active_incidents", "similar_prior_cases", "rollbacks_last_24h"]
      · obtain ⟨other, hother, -⟩ := hupdated [] key hfirst
        rw [hown] at hother
        cases hother
      · obtain rfl : key = "regressions_last_7d" := by
          simp only [countedMembers, List.mem_cons, List.not_mem_nil, or_false] at hkey hfirst
          tauto
        simp [detectedKubernetesContext, Dict.get?_cons] at hfound

theorem signal_deployment : objectAt reading.signal "deployment" = reading.deployment := by
  simp [objectAt, ClusterReading.signal, Dict.get?_cons, Json.asObj?]

theorem signal_pods : objectsAt reading.signal "pods" = reading.pods.map PodReading.member := by
  simp [objectsAt, itemsAt, ClusterReading.signal, Dict.get?_cons, List.filterMap_map,
    Function.comp_def, Json.asObj?]

theorem rolloutStatus_eq : textAt reading.deployment "rollout_status" = reading.rollout.status := by
  simp [textAt, getOr, ClusterReading.deployment, Dict.get?_cons, Json.asStr]

/-- What both stages see alike: something drifted, the rollout has failed, or a pod has
restarted or stands in a failing state. -/
def PlainlyBroken : Prop :=
  reading.configurationDrift ≠ [] ∨ reading.rollout.status = "failed" ∨
    ∃ pod ∈ reading.pods, 0 < pod.restarts ∨
      textAt pod.member "container_status" ∈ activelyFailingContainerStates

theorem actionable_iff {reading : ClusterReading} {context : Dict} {signatures : List String}
    (hdrift : flagAt context "configuration_drift" false =
      !reading.configurationDrift.isEmpty) :
    kubernetesSignalIsActionable reading.deployment (reading.pods.map PodReading.member) signatures
        context = true ↔
      PlainlyBroken reading ∨
        reading.rollout.status = "degraded" ∧
          ((∃ signature ∈ hardErrorSignatures, signature ∈ signatures) ∨
            ("probe_failure" ∈ signatures ∧
              ∃ pod ∈ reading.pods, textAt pod.member "phase" = "Running" ∧
                textAt pod.member "container_status" = "Running" ∧ pod.ready = false)) := by
  have hrestarts (pod : PodReading) : wholeAt pod.member "restarts" = pod.restarts := by
    simp [wholeAt, PodReading.member, Dict.get?_cons]
  have hready (pod : PodReading) :
      (getOr pod.member "ready" .null == .bool false) = !pod.ready := by
    cases h : pod.ready <;> simp [getOr, PodReading.member, Dict.get?_cons, h]
  unfold kubernetesSignalIsActionable PlainlyBroken
  simp only [hdrift, rolloutStatus_eq, List.any_map, Function.comp_def, hrestarts, hready,
    Bool.or_eq_true, Bool.and_eq_true, List.any_eq_true, decide_eq_true_eq, beq_iff_eq,
    List.contains_iff_mem, Bool.not_eq_true', List.isEmpty_eq_false_iff, and_assoc]
  constructor
  · rintro ((((hdrifted | ⟨hdegraded, hprobe, hunready⟩) | hfailed) | hfailing) |
      ⟨hdegraded, hhard⟩)
    · exact .inl (.inl hdrifted)
    · exact .inr ⟨hdegraded, .inr ⟨hprobe, hunready⟩⟩
    · exact .inl (.inr (.inl hfailed))
    · exact .inl (.inr (.inr hfailing))
    · exact .inr ⟨hdegraded, .inl hhard⟩
  · rintro ((hdrifted | hfailed | hfailing) | ⟨hdegraded, hhard | ⟨hprobe, hunready⟩⟩)
    · exact .inl (.inl (.inl (.inl hdrifted)))
    · exact .inl (.inl (.inr hfailed))
    · exact .inl (.inr hfailing)
    · exact .inr ⟨hdegraded, hhard⟩
    · exact .inl (.inl (.inl (.inr ⟨hdegraded, hprobe, hunready⟩)))

/-- **The watcher's view.**  Without a summary only what is plainly broken counts. -/
theorem watcherIsActionable_iff :
    watcherIsActionable reading.signal = true ↔ PlainlyBroken reading := by
  have hnone : signaturesIn (objectAt reading.signal "log_summary") = [] := by
    simp [signaturesIn, itemsAt, objectAt, ClusterReading.signal, Dict.get?_cons]
  unfold watcherIsActionable
  rw [signal_deployment, signal_pods, signal_relatedContext, hnone,
    actionable_iff (relatedContext_drift reading)]
  simp

/-- **The trigger service's view** of the same observation. -/
theorem detectRaw_iff {reading : ClusterReading}
    (hvalid : validatePayload kubernetesSignalSchema (.obj reading.signal) = .ok ()) :
    (∃ trigger, detectRaw store reading.signal = .ok (some trigger)) ↔
      PlainlyBroken reading ∨
        reading.rollout.status = "degraded" ∧
          ((∃ signature ∈ hardErrorSignatures,
              signature ∈ signaturesIn (logSummaryOf reading.signal)) ∨
            ("probe_failure" ∈ signaturesIn (logSummaryOf reading.signal) ∧
              ∃ pod ∈ reading.pods, textAt pod.member "phase" = "Running" ∧
                textAt pod.member "container_status" = "Running" ∧ pod.ready = false)) := by
  have hacted : kubernetesActedOn (kubernetesEnvelope store reading.signal) =
      kubernetesSignalIsActionable reading.deployment (reading.pods.map PodReading.member)
        (signaturesIn (logSummaryOf reading.signal)) (kubernetesContext store reading.signal) := by
    have hcontext : objectAt (kubernetesEnvelope store reading.signal).payload "related_context" =
        kubernetesContext store reading.signal := by
      simp [kubernetesEnvelope, objectAt, Dict.get?_cons, Json.asObj?]
    have hsummary : objectAt (kubernetesEnvelope store reading.signal).payload "log_summary" =
        logSummaryOf reading.signal := by
      simp [kubernetesEnvelope, objectAt, Dict.get?_cons, Json.asObj?, logSummaryOf]
    have hdeployment : objectAt (kubernetesEnvelope store reading.signal).payload "deployment" =
        reading.deployment := by
      rw [← signal_deployment]
      simp [kubernetesEnvelope, objectAt, Dict.get?_cons, Json.asObj?]
    have hpods : objectsAt (kubernetesEnvelope store reading.signal).payload "pods" =
        reading.pods.map PodReading.member := by
      rw [← signal_pods]
      simp [kubernetesEnvelope, objectsAt, itemsAt, Dict.get?_cons, getOr, ClusterReading.signal]
    unfold kubernetesActedOn
    simp only [hcontext, hsummary, hdeployment, hpods, context_not_suppressed, Bool.not_false,
      Bool.true_and]
    rfl
  rw [← actionable_iff (context_drift store reading), ← hacted]
  unfold detectRaw normalizeKubernetesSignal detectKubernetesTrigger
  rw [hvalid, ok_bind]
  show (∃ trigger, (if kubernetesActedOn (kubernetesEnvelope store reading.signal) then _ else _) =
    Except.ok (some trigger)) ↔ _
  rw [validateTrigger_collected store reading, ok_bind]
  cases kubernetesActedOn (kubernetesEnvelope store reading.signal) with
  | true => simpa using ⟨_, rfl⟩
  | false => simp

/-- **Where watcher and trigger service agree**: not on a deployment in trouble that only the
summary of logs and events shows. -/
theorem watcher_agrees_iff {reading : ClusterReading}
    (hvalid : validatePayload kubernetesSignalSchema (.obj reading.signal) = .ok ()) :
    (watcherIsActionable reading.signal = true ↔
      ∃ trigger, detectRaw store reading.signal = .ok (some trigger)) ↔ ¬ Overlooked reading := by
  have hbroken (h : Overlooked reading) : ¬ PlainlyBroken reading := by
    rintro (hdrifted | hfailed | ⟨pod, hpod, hrestarted | hfailing⟩)
    · exact hdrifted h.noDrift
    · rw [h.degraded] at hfailed
      exact absurd hfailed (by decide)
    · exact absurd (h.noFailure pod hpod).1 (not_le.mpr hrestarted)
    · exact (h.noFailure pod hpod).2 hfailing
  rw [watcherIsActionable_iff, detectRaw_iff store hvalid]
  constructor
  · intro hagree hoverlooked
    exact hbroken hoverlooked (hagree.mpr (.inr ⟨hoverlooked.degraded, hoverlooked.shown⟩))
  · intro hnone
    refine ⟨.inl, ?_⟩
    rintro (hplain | ⟨hdegraded, hshown⟩)
    · exact hplain
    · by_contra hplain
      refine hnone { degraded := hdegraded, noDrift := ?_, noFailure := ?_, shown := hshown }
      · by_contra hdrifted
        exact hplain (.inl hdrifted)
      · intro pod hpod
        refine ⟨not_lt.mp fun hrestarted => ?_, fun hfailing => ?_⟩
        · exact hplain (.inr (.inr ⟨pod, hpod, .inl hrestarted⟩))
        · exact hplain (.inr (.inr ⟨pod, hpod, .inr hfailing⟩))

def apiReading (pod : PodReading) (events : List Dict) : ClusterReading where
  signalId := "sig_k8s_default_api_20260712T160000Z"
  observedAt := "2026-07-12T16:00:00Z"
  environment := "local"
  cluster := "k3d"
  kubeContext := "k3d"
  namespaceName := "default"
  service := "api"
  deploymentName := "api"
  revision := "3"
  image := "api:3"
  rolloutStartedAt := "2026-07-12T15:00:00Z"
  secondsSinceDeploy := some 3600
  rollout := { desired := 1, available := 0, updated := 1 }
  pods := [pod]
  events := events
  logs := []

def unreadyReading : ClusterReading :=
  apiReading { name := .str "api-1", phase := .str "Running", ready := false, restarts := 0 }
    [[("reason", .str "Unhealthy"),
      ("message", .str "Readiness probe failed: HTTP probe failed with statuscode: 503"),
      ("count", .int 40), ("type", .str "Warning")]]

def crashingReading : ClusterReading :=
  apiReading { name := .str "api-1", phase := .str "Running", ready := false, restarts := 7,
               waitingReason := .str "CrashLoopBackOff" } []

theorem watcher_agrees_sample :
    (watcherIsActionable crashingReading.signal = true ↔
      ∃ trigger, detectRaw none crashingReading.signal = .ok (some trigger)) ∧
    watcherIsActionable crashingReading.signal = true := by
  refine ⟨(watcher_agrees_iff none (by decide +kernel)).mpr ?_, by decide +kernel⟩
  intro hoverlooked
  exact absurd (hoverlooked.noFailure _ List.mem_cons_self).1 (by decide)

/-- **A deployment that nobody looks at**: its only pod fails its readiness probe for good, and
the watcher passes it over. -/
theorem unready_deployment_overlooked :
    validatePayload kubernetesSignalSchema (.obj unreadyReading.signal) = .ok () ∧
      watcherIsActionable unreadyReading.signal = false ∧
      ∃ trigger, detectRaw none unreadyReading.signal = .ok (some trigger) := by
  refine ⟨by decide +kernel, by decide +kernel, ?_⟩
  refine (detectRaw_iff none (by decide +kernel)).mpr
    (.inr ⟨by decide, .inr ⟨by decide +kernel, ?_⟩⟩)
  exact ⟨_, List.mem_cons_self, by decide +kernel, by decide +kernel, rfl⟩

end OrbitalMesh.Signals
