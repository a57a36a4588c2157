import OrbitalMesh.Base.Binary64
import OrbitalMesh.Bridge.Schema

/-!
# Triggers and remediation decisions

A trigger describes a detected problem; its `related_context` also carries
whatever the client sent along.  `DecisionService` turns a trigger into one
decision.  Of a decision only the members that later gates read are kept: its
type, its tier, the risk, the confidence and the plan.  Summary, reasoning and
expected outcome are texts for readers.
-/

namespace OrbitalMesh.Decision

/-- How `int` and `float` read texts. -/
structure TextReading where
  int : String → Option Int
  float : String → Option Binary64

/-- `raise TypeError(text)`. -/
def typeError {α : Type} (text : String) : Except PyError α := .error ⟨.typeError, text⟩

/-- A number, without its being a `bool`. -/
inductive Number where
  | int (n : Int)
  | float (x : Binary64)

/-- The double that a JSON float stands for. -/
def doubleOf (neg : Bool) (mant : Nat) (exp : Int) : Binary64 :=
  let size : ℚ := if 0 ≤ exp then ((mant * 10 ^ exp.toNat : Nat) : ℚ)
    else (mant : ℚ) / ((10 ^ (-exp).toNat : Nat) : ℚ)
  Binary64.nearest (if neg then -size else size)

def asNumber? : Json → Option Number
  | .bool b => some (.int (if b then 1 else 0))
  | .int n => some (.int n)
  | .float neg mant exp => some (.float (doubleOf neg mant exp))
  | _ => none

namespace Number

def exact : Number → Binary64
  | .int n => .finite n
  | .float x => x

/-- `float(number)`. -/
def toDouble : Number → Except PyError Binary64
  | .int n =>
    match Binary64.nearest n with
    | .infinite _ => .error ⟨.overflowError, "int too large to convert to float"⟩
    | x => .ok x
  | .float x => .ok x

/-- `a - b`. -/
def sub : Number → Number → Except PyError Number
  | .int n, .int m => .ok (.int (n - m))
  | a, b => do return .float ((← a.toDouble).sub (← b.toDouble))

/-- `a / b`, where `b` is not zero. -/
def div : Number → Number → Except PyError Binary64
  | .int n, .int m =>
    match Binary64.nearest (n / m) with
    | .infinite _ =>
      .error ⟨.overflowError, "integer division result too large for a float"⟩
    | x => .ok x
  | a, b => do return (← a.toDouble).div (← b.toDouble)

end Number

variable (reading : TextReading)

/-- `int(value)`. -/
def pyInt : Json → Except PyError Int
  | .bool b => .ok (if b then 1 else 0)
  | .int n => .ok n
  | .float neg mant exp =>
    match doubleOf neg mant exp with
    | .finite x => .ok (if x < 0 then x.ceil else x.floor)
    | _ => .error ⟨.overflowError, "cannot convert float infinity to integer"⟩
  | .str text =>
    match reading.int text with
    | some n => .ok n
    | none => valueError ("invalid literal for int() with base 10: " ++ pyRepr text)
  | value =>
    typeError ("int() argument must be a string, a bytes-like object or a real number, not '" ++
      typeName value ++ "'")

/-- `float(value)`. -/
def pyFloat : Json → Except PyError Binary64
  | .str text =>
    match reading.float text with
    | some x => .ok x
    | none => valueError ("could not convert string to float: " ++ pyRepr text)
  | value =>
    match asNumber? value with
    | some number => number.toDouble
    | none =>
      typeError ("float() argument must be a string or a real number, not '" ++
        typeName value ++ "'")

/-- `list(value)`. -/
def pyList : Json → Except PyError (List Json)
  | .arr items => .ok items
  | .str text => .ok (text.toList.map fun c => .str (String.singleton c))
  | .obj members => .ok (members.map fun member => .str member.1)
  | value => typeError ("'" ++ typeName value ++ "' object is not iterable")

/-- `value or other`. -/
def pyOr (value other : Json) : Json := if truthy value then value else other

/-- `d.get(key, default)`. -/
def getOr (d : Dict) (key : String) (default : Json) : Json := (d.get? key).getD default

/-- `bool(d.get(key, default))`. -/
def flagAt (d : Dict) (key : String) (default : Bool) : Bool :=
  truthy (getOr d key (.bool default))

/-- What `", ".join(items)` asks of its items. -/
def requireTexts (items : List Json) : Except PyError Unit :=
  match items.zipIdx.find? fun item => !matchesType item.1 .string with
  | some (item, index) =>
    typeError ("sequence item " ++ toString index ++ ": expected str instance, " ++
      typeName item ++ " found")
  | none => .ok ()

structure Trigger where
  triggerId : String
  triggerType : String
  triggeredAt : String
  environment : String
  service : String
  endpoint : String
  flagKey : Option String
  currentRolloutPct : Option Int
  comparisonWindow : Option Dict
  segment : Dict
  metrics : Dict
  relatedContext : Dict

namespace Trigger

variable (trigger : Trigger)

/-- `trigger.related_context.get(key)`. -/
def context? (key : String) : Option Json := trigger.relatedContext.get? key

/-- `trigger.related_context.get(key)`, with `None` where there is nothing. -/
def context (key : String) : Json := getOr trigger.relatedContext key .null

def recoveryContext : Dict :=
  match trigger.context "recovery_context" with
  | .obj members => members
  | _ => []

end Trigger

/-- A text or `None`. -/
def textOrNull (text : Option String) : Json := (text.map Json.str).getD .null

variable (trigger : Trigger)

/-- `str(trigger.current_rollout_pct)`. -/
def rolloutText : String :=
  (trigger.currentRolloutPct.map toString).getD "None"

def planOf (system action : String) (parameters : Dict) (rollbackPlan : String) : Dict :=
  [("system", .str system), ("action", .str action), ("parameters", .obj parameters),
   ("rollback_plan", .str rollbackPlan)]

def clusterMembers : Dict :=
  [("cluster", trigger.context "cluster"), ("kube_context", trigger.context "kube_context")]

def deploymentMembers : Dict :=
  clusterMembers trigger ++
    [("namespace", trigger.context "namespace"),
     ("deployment_name", trigger.context "deployment_name")]

/-- `_defer_until_context`, for a deferral. -/
def deferUntilContext (trigger : Trigger) : Except PyError Dict := do
  let signatures ← pyList (getOr trigger.relatedContext "error_signatures" (.arr []))
  requireTexts signatures
  let condition := ", ".intercalate
    (if signatures.isEmpty then ["runtime symptoms"] else signatures.map Json.asStr)
  let deferSeconds ← pyInt reading
    (pyOr (getOr trigger.relatedContext "defer_seconds" (.int 300)) (.int 300))
  return [
    ("defer_seconds", .int deferSeconds),
    ("condition", .str (condition ++ " on " ++ trigger.endpoint)),
    ("original_trigger_id", .str trigger.triggerId),
    ("recheck_signal_type", .str trigger.triggerType),
    ("on_persist", .str "escalate"),
    ("on_clear", .str "no_action")]

def rolloutPlan (rolloutPct : Int) : Dict :=
  planOf "feature_flag_service" "set_rollout"
    [("flag_key", textOrNull trigger.flagKey),
     ("environment", .str trigger.environment),
     ("rollout_pct", .int rolloutPct)]
    ("restore previous rollout percentage of " ++ rolloutText trigger ++
      " if follow-up evaluation disproves causality")

/-- A dictionary inside the context, for `.get` on it. -/
def membersOf (value : Json) : Except PyError Dict :=
  match value with
  | .obj members => .ok members
  | other => .error ⟨.exception, "'" ++ typeName other ++ "' object has no attribute 'get'"⟩

def systemdPlan : Except PyError Dict := do
  let attrs ← membersOf (getOr trigger.relatedContext "resource_attributes" (.obj []))
  let node ← membersOf (getOr trigger.relatedContext "node" (.obj []))
  let fleet ← membersOf (getOr trigger.relatedContext "fleet" (.obj []))
  let signatures ← pyList (getOr trigger.relatedContext "error_signatures" (.arr []))
  requireTexts signatures
  let attr (key : String) := getOr attrs key .null
  let ofNode (key : String) := getOr node key .null
  let ofFleet (key : String) := getOr fleet key .null
  return planOf "systemd_service" "restart_systemd_service"
    [("host", pyOr (attr "mesh.node.host") (trigger.context "host")),
     ("service", pyOr (attr "mesh.node.service") (trigger.context "systemd_service")),
     ("reason", .str (", ".intercalate (signatures.map Json.asStr))),
     ("lb_target_id", pyOr (attr "mesh.lb.target_id") (ofNode "lb_target_id")),
     ("lb_pool", pyOr (attr "mesh.lb.pool") (ofNode "lb_pool")),
     ("lb_provider", pyOr (attr "mesh.lb.provider") (ofNode "lb_provider")),
     ("fleet_id", pyOr (attr "mesh.fleet.id") (pyOr (ofFleet "fleet_id") (ofNode "fleet_id"))),
     ("fleet_min_healthy", pyOr (ofFleet "min_healthy") (ofNode "fleet_min_healthy")),
     ("fleet_healthy_count", pyOr (ofFleet "healthy_count") (ofNode "fleet_healthy_count"))]
    ("no automatic rollback for a systemd restart; escalate if peers, block lag, " ++
      "or RPC health do not recover within the feedback window")

def repoPatchPlan : Except PyError Dict := do
  let template ← membersOf (getOr trigger.relatedContext "patch_template" (.obj []))
  let allowedPaths ← pyList (getOr trigger.relatedContext "allowed_paths" (.arr []))
  let testCommands ← pyList (getOr trigger.relatedContext "test_commands" (.arr []))
  return planOf "repo_patch_service" "investigate_and_patch"
    [("repo_path", trigger.context "repo_path"),
     ("allowed_paths", .arr allowedPaths),
     ("suspected_file", trigger.context "suspected_file"),
     ("symptom", .str "search latency regression after semantic rollout change"),
     ("test_commands", .arr testCommands),
     ("patch_template", .obj
        [("target_file", getOr template "target_file" .null),
         ("find", getOr template "find" .null),
         ("replace", getOr template "replace" .null)])]
    ("restore the previous file contents from the saved backup and rerun the bounded " ++
      "verification commands")

/-- `_execution_plan`.  No branch of the service chooses to cordon or drain a node
or to drive ArgoCD, and the plans for these are left out. -/
def executionPlan (trigger : Trigger) (decisionType : String)
    (targetRollout : Int) : Except PyError Dict :=
  let context := trigger.context
  match decisionType with
  | "defer_until" => do
    let deferral ← deferUntilContext reading trigger
    return planOf "audit_log_sink" "record_defer_until"
      ([("trigger_id", .str trigger.triggerId), ("service", .str trigger.service),
        ("endpoint", .str trigger.endpoint), ("environment", .str trigger.environment)] ++
        deferral)
      ("no infrastructure mutation was performed; cancel the scheduled recheck if the " ++
        "alert is manually resolved")
  | "rollback_deployment" =>
    return planOf "kubernetes_service" "rollback_deployment"
      (deploymentMembers trigger ++ [("revision", context "release_id")])
      ("reapply the unhealthy revision only after human review confirms the rollback was " ++
        "incorrect")
  | "restart_deployment" =>
    return planOf "kubernetes_service" "restart_deployment" (deploymentMembers trigger)
      ("rollback deployment to the previous stable revision if restart does not restore " ++
        "readiness")
  | "restart_pod" =>
    return planOf "kubernetes_service" "restart_pod"
      (clusterMembers trigger ++
        [("namespace", context "namespace"), ("pod_name", context "pod_name")])
      "if recreated pod remains unhealthy, restart the owning deployment or rollback"
  | "scale_deployment" =>
    return planOf "kubernetes_service" "scale_deployment"
      (deploymentMembers trigger ++
        [("replicas", pyOr (context "target_replicas") (context "replicas"))])
      ("scale back to previous replica count " ++
        pyStr (getOr trigger.relatedContext "previous_replicas" (.str "unknown")) ++
        " if scaling does not restore health")
  | "patch_resources" =>
    return planOf "kubernetes_service" "patch_resources"
      (deploymentMembers trigger ++
        [("container", pyOr (context "container") (.str trigger.service)),
         ("limits", .obj [("memory", pyOr (context "target_memory_limit") (.str "1Gi"))])])
      ("restore the previous memory limit (" ++
        pyStr (pyOr (context "memory_limit") (.str "unknown")) ++
        ") if the new ceiling does not stop OOM kills within 15 minutes")
  | "restart_systemd_service" => systemdPlan trigger
  | "investigate_and_patch" => repoPatchPlan trigger
  | "disable_flag" => return rolloutPlan trigger 0
  | "reduce_rollout" => return rolloutPlan trigger targetRollout
  | "escalate" =>
    return planOf "incident_service" "open_incident"
      [("service", .str trigger.service), ("endpoint", .str trigger.endpoint),
       ("flag_key", textOrNull trigger.flagKey), ("environment", .str trigger.environment),
       ("severity", .str "high")]
      "close or downgrade the incident once a human owner confirms the system state"
  | _ =>
    return planOf "audit_log_sink" "record_no_action"
      [("flag_key", textOrNull trigger.flagKey), ("environment", .str trigger.environment),
       ("reason", .str "regression signal did not justify an automated remediation step")]
      "no rollback required"

/-- The members of `Decision` that later gates read. -/
structure RemediationDecision where
  decisionType : String
  autonomyTier : String
  riskLevel : String
  blastRadius : String
  confidence : Binary64
  executionPlan : Dict

/-- The types of a decision that change nothing: an incident is opened, or a line
is written to the audit log. -/
def passiveTypes : List String := ["escalate", "no_action", "defer_until"]

variable (decision : RemediationDecision)

def RemediationDecision.mutating : Bool :=
  !passiveTypes.contains decision.decisionType

/-- A change that nobody is asked about. -/
def RemediationDecision.autonomousMutation : Bool :=
  decision.autonomyTier == "autonomous" && decision.mutating

/-- `decision.validate()`: the members with a fixed set of values.  The others
have their types by construction. -/
def RemediationDecision.validated :
    Except PyError RemediationDecision := do
  checkNode (.str decision.decisionType) (.textIn
    ["no_action", "reduce_rollout", "disable_flag", "defer_until", "escalate",
     "investigate_and_patch", "rollback_deployment", "restart_deployment", "scale_deployment",
     "patch_resources", "restart_systemd_service"]) "$.decision_type"
  checkNode (.str decision.autonomyTier)
    (.textIn ["autonomous", "approval_required", "escalated"]) "$.autonomy_tier"
  checkNode (.str decision.riskLevel) (.textIn ["low", "medium", "high"]) "$.risk.level"
  checkNode (getOr decision.executionPlan "system" .null) (.textIn
    ["feature_flag_service", "incident_service", "audit_log_sink", "repo_patch_service",
     "kubernetes_service", "systemd_service"]) "$.execution_plan.system"
  checkNode (getOr decision.executionPlan "action" .null) (.textIn
    ["set_rollout", "open_incident", "record_no_action", "record_defer_until",
     "investigate_and_patch", "rollback_deployment", "restart_deployment", "scale_deployment",
     "patch_resources", "restart_systemd_service", "start_systemd_service",
     "stop_systemd_service"]) "$.execution_plan.action"
  return decision

theorem RemediationDecision.validated_eq {decision checked : RemediationDecision}
    (h : decision.validated = .ok checked) : checked = decision := by
  simp only [validated, Except.bind_ok_iff] at h
  obtain ⟨_, _, _, _, _, _, _, _, _, _, h⟩ := h
  cases h
  rfl

end OrbitalMesh.Decision
