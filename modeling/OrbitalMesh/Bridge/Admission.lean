import OrbitalMesh.Bridge.Schema
import OrbitalMesh.Authority.Request

/-!
# Admission of repository patches

`hsai_bridge.py` asks an admission service about a planned repository patch.
The request describes the plan through digests; version 2 of the request also
spells out a normalised candidate.  The answer is attached to the decision as
its execution context, and `validate_hsai_execution_context` looks at that
context once more before the patch is applied.
-/

namespace OrbitalMesh

/-- A decision with all of its members, as `contracts.py` declares it. -/
structure ContractDecision where
  decisionId : String
  triggerId : String
  summary : String
  decisionType : String
  autonomyTier : String
  reasoning : Dict
  expectedOutcome : Dict
  risk : Dict
  confidence : Json
  executionPlan : Dict
deriving DecidableEq

/-- `decision.schema.json`. -/
def decisionSchema : Schema :=
  .record
    ["decision_id", "trigger_id", "decision_type", "autonomy_tier", "summary", "reasoning",
     "expected_outcome", "risk", "confidence", "execution_plan"]
    [("decision_id", .text),
     ("trigger_id", .text),
     ("decision_type", .textIn
        ["no_action", "reduce_rollout", "disable_flag", "defer_until", "escalate",
         "investigate_and_patch", "rollback_deployment", "restart_deployment",
         "scale_deployment", "patch_resources", "restart_systemd_service"]),
     ("autonomy_tier", .textIn ["autonomous", "approval_required", "escalated"]),
     ("summary", .text),
     ("reasoning", .record ["primary_hypothesis", "evidence", "alternatives_considered"]
        [("primary_hypothesis", .text),
         ("evidence", .listOf .text 1),
         ("evidence_pack", .object),
         ("ranked_hypotheses", .listOf .object 0),
         ("observer_verdict", { types := [.object, .null] }),
         ("alternatives_considered", .listOf .text 1)]),
     ("expected_outcome", .record ["target_metrics", "time_to_effect"]
        [("target_metrics", .record ["p95_latency_ms", "error_rate"]
            [("p95_latency_ms", .text), ("error_rate", .text)]),
         ("time_to_effect", .text)]),
     ("risk", .record ["level", "blast_radius", "customer_impact_if_wrong"]
        [("level", .textIn ["low", "medium", "high"]),
         ("blast_radius", .text),
         ("customer_impact_if_wrong", .text)]),
     ("confidence", { types := [.number] }),
     ("execution_plan", .record ["system", "action", "parameters", "rollback_plan"]
        [("system", .textIn
            ["feature_flag_service", "incident_service", "audit_log_sink",
             "repo_patch_service", "kubernetes_service", "systemd_service"]),
         ("action", .textIn
            ["set_rollout", "open_incident", "record_no_action", "record_defer_until",
             "investigate_and_patch", "rollback_deployment", "restart_deployment",
             "scale_deployment", "patch_resources", "restart_systemd_service",
             "start_systemd_service", "stop_systemd_service"]),
         ("parameters", .object),
         ("rollback_plan", .text)])]

namespace ContractDecision

def asDict (d : ContractDecision) : Dict :=
  [("decision_id", .str d.decisionId),
   ("trigger_id", .str d.triggerId),
   ("summary", .str d.summary),
   ("decision_type", .str d.decisionType),
   ("autonomy_tier", .str d.autonomyTier),
   ("reasoning", .obj d.reasoning),
   ("expected_outcome", .obj d.expectedOutcome),
   ("risk", .obj d.risk),
   ("confidence", d.confidence),
   ("execution_plan", .obj d.executionPlan)]

def toDict (d : ContractDecision) : Except PyError Dict := do
  validatePayload decisionSchema (.obj d.asDict)
  return d.asDict

def fromDict (payload : Dict) : Except PyError ContractDecision := do
  validatePayload decisionSchema (.obj payload)
  return {
    decisionId := textAt payload "decision_id"
    triggerId := textAt payload "trigger_id"
    summary := textAt payload "summary"
    decisionType := textAt payload "decision_type"
    autonomyTier := textAt payload "autonomy_tier"
    reasoning := membersAt payload "reasoning"
    expectedOutcome := membersAt payload "expected_outcome"
    risk := membersAt payload "risk"
    confidence := valueAt payload "confidence"
    executionPlan := membersAt payload "execution_plan" }

/-- `_dict(decision.execution_plan.get("parameters"))`. -/
def parameters (d : ContractDecision) : Dict := membersAt d.executionPlan "parameters"

end ContractDecision

def hsaiAdmissionRequestVersion : String := "mesh.hsai_admission_request.v1"

def hsaiAdmissionRequestV2Version : String := "mesh.hsai_admission_request.v2"

/-- `{"actor_id": ..., "team_id": ...}`. -/
def actorRefSchema : Schema :=
  .record ["actor_id", "team_id"] [("actor_id", .text), ("team_id", .text)]

/-- `hsai-admission-request.schema.json`. -/
def hsaiAdmissionRequestSchema : Schema :=
  .record
    ["schema_version", "mesh_run_id", "mesh_action_id", "action_kind", "actor_ref",
     "mesh_policy_id", "action_proposal_digest", "candidate_payload_digest",
     "evidence_packet_digest", "attestation_refs", "requested_claims", "explicit_nonclaims",
     "created_at"]
    [("schema_version", .textIn [hsaiAdmissionRequestVersion]),
     ("mesh_run_id", .text),
     ("mesh_action_id", .text),
     ("action_kind", .text),
     ("actor_ref", actorRefSchema),
     ("mesh_policy_id", .text),
     ("action_proposal_digest", .text),
     ("candidate_payload_digest", .text),
     ("evidence_packet_digest", .text),
     ("attestation_refs",
        .listOf (.record ["kind", "digest"] [("kind", .text), ("digest", .text)]) 0),
     ("requested_claims", .listOf .text 0),
     ("explicit_nonclaims", .listOf .text 0),
     ("created_at", .text)]

def candidatePayloadSchema : Schema :=
  .record
    ["decision_id", "trigger_id", "decision_type", "autonomy_tier", "summary", "reasoning",
     "expected_outcome", "risk", "confidence", "execution_plan"]
    [("decision_id", .text),
     ("trigger_id", .text),
     ("decision_type", .oneOf ["investigate_and_patch"]),
     ("autonomy_tier", .text),
     ("summary", .text),
     ("reasoning", .object),
     ("expected_outcome", .object),
     ("risk", .object),
     ("confidence", { types := [.number] }),
     ("execution_plan", .record ["system", "action", "parameters", "rollback_plan"]
        [("system", .oneOf ["repo_patch_service"]),
         ("action", .oneOf ["investigate_and_patch"]),
         ("parameters", .record
            ["repo_path", "allowed_paths", "protected_paths", "patch_template",
             "test_commands", "mesh_run_id", "mesh_action_id", "mesh_policy_id", "actor_ref"]
            [("repo_path", .text),
             ("allowed_paths", .listOf .text 1),
             ("protected_paths", .listOf .text 0),
             ("patch_template", .record ["target_file", "find", "replace"]
                [("target_file", .text), ("find", .text), ("replace", .text)]),
             ("test_commands", .listOf (.listOf .text 1) 1),
             ("mesh_run_id", .text),
             ("mesh_action_id", .text),
             ("mesh_policy_id", .text),
             ("actor_ref", .reference)]),
         ("rollback_plan", .text)])]

def preExecutionEvidenceSchema : Schema :=
  .record
    ["schema_version", "decision_id", "evaluation_id", "evaluation_passed",
     "final_recommendation", "blocking_reasons", "stage_results", "stage_results_digest",
     "preflight_receipt"]
    [("schema_version", .oneOf ["mesh.repo_patch_pre_execution_evidence.v1"]),
     ("decision_id", .text),
     ("evaluation_id", .text),
     ("evaluation_passed", { types := [.boolean] }),
     ("final_recommendation", .text),
     ("blocking_reasons", .listOf .text 0),
     ("stage_results", .object),
     ("stage_results_digest", .reference),
     ("preflight_receipt", .reference)]

/-- `hsai-admission-request-v2.schema.json`. -/
def hsaiAdmissionRequestV2Schema : Schema :=
  .record
    ["schema_version", "mesh_run_id", "mesh_action_id", "action_kind", "actor_ref",
     "mesh_policy_id", "action_proposal_digest", "candidate_payload_digest",
     "evidence_packet_digest", "attestation_refs", "requested_claims", "explicit_nonclaims",
     "created_at", "candidate_payload", "pre_execution_evidence"]
    [("schema_version", .oneOf [hsaiAdmissionRequestV2Version]),
     ("mesh_run_id", .text),
     ("mesh_action_id", .text),
     ("action_kind", .oneOf ["repo_patch"]),
     ("actor_ref", .reference),
     ("mesh_policy_id", .text),
     ("action_proposal_digest", .reference),
     ("candidate_payload_digest", .reference),
     ("evidence_packet_digest", .reference),
     ("attestation_refs",
        .listOf (.record ["kind", "digest"] [("kind", .text), ("digest", .reference)]) 1),
     ("requested_claims", .listOf .text 1),
     ("explicit_nonclaims", .listOf .text 1),
     ("created_at", .text),
     ("candidate_payload", candidatePayloadSchema),
     ("pre_execution_evidence", preExecutionEvidenceSchema)]

/-- `hsai-admission-decision.schema.json`. -/
def hsaiAdmissionDecisionSchema : Schema :=
  .record
    ["schema_version", "decision_id", "mesh_run_id", "mesh_action_id", "action_kind",
     "request_digest", "candidate_digest", "decision", "admission_policy_id", "gate_results",
     "accepted_claims", "enforced_nonclaims", "formal_evidence_metadata", "reason_codes",
     "decision_digest", "created_at"]
    [("schema_version", .textIn ["mesh.hsai_admission_decision.v1"]),
     ("decision_id", .text),
     ("mesh_run_id", .text),
     ("mesh_action_id", .text),
     ("action_kind", .text),
     ("request_digest", .text),
     ("candidate_digest", .text),
     ("decision", .textIn ["allow", "deny", "needs_human", "error"]),
     ("admission_policy_id", .text),
     ("gate_results", .listOf
        { types := [.object]
          required := ["gate", "result"]
          properties := [("gate", .text), ("result", .text), ("metadata_digest", .text)] } 0),
     ("accepted_claims", .listOf .text 0),
     ("enforced_nonclaims", .listOf .text 0),
     ("formal_evidence_metadata", .object),
     ("reason_codes", .listOf .text 0),
     ("decision_digest", .text),
     ("created_at", .text)]

/-- `value or other`. -/
def orElse (value : Option Json) (other : Json) : Json :=
  match value with
  | some found => if truthy found then found else other
  | none => other

variable (d : ContractDecision)

def expectedMeshRunId : String :=
  pyStr (orElse (d.parameters.get? "mesh_run_id")
    (orElse (d.parameters.get? "run_id") (.str ("run_" ++ d.triggerId))))

def expectedMeshActionId : String :=
  pyStr (orElse (d.parameters.get? "mesh_action_id") (.str d.decisionId))

def decisionPayloadWithoutHsaiContext : Except PyError Dict := do
  let payload ← d.toDict
  if (d.parameters.get? hsaiExecutionContextKey).isSome then
    return payload.set "execution_plan" (.obj (d.executionPlan.set "parameters"
      (.obj (d.parameters.pop hsaiExecutionContextKey))))
  else
    return payload

variable (sha : Sha256)

/-- `decision_digest`. -/
def admissionDecisionDigest (decision : Dict) : String :=
  canonicalDigest sha (.obj (decision.pop "decision_digest"))

/-- `len(value)`: the number of UTF-8 bytes that begin a character. -/
def textLength (value : String) : Nat :=
  value.toUTF8.data.toList.countP fun b => b < 128 || 192 ≤ b

def requireDigest (label : String) (value : Json) : Except PyError Unit :=
  match value with
  | .str text =>
    rejectIf (!("sha256:".toUTF8.data.toList.isPrefixOf text.toUTF8.data.toList &&
        textLength text == 71))
      ⟨.valueError, label ++ " is not a canonical sha256 digest"⟩
  | _ => valueError (label ++ " is not a canonical sha256 digest")

def stringList : Json → List String
  | .arr items => (items.map pyStr).insertionSort fun a b => Json.keyLe a b = true
  | _ => []

variable (evaluation : EvaluationResult)

def meshPolicyId (parameters : Dict) :
    String :=
  let stages := evaluation.stageResults.asObj?.getD []
  let validation := membersAt stages "policy_validation"
  pyStr (orElse (parameters.get? "mesh_policy_id")
    (orElse (validation.get? "policy_id") (orElse (validation.get? "policy_ref")
      (.str ("mesh_policy://" ++ d.autonomyTier ++ "/" ++ evaluation.evaluationId)))))

def meshPolicyAllows : Bool :=
  evaluation.passed && evaluation.finalRecommendation == "execute"

def defaultProtectedRepoPaths : List String := [".git", ".github", "AGENTS.md"]

def declaredCommandVector : Json → Except PyError (List String)
  | .str command =>
    match Text.splitWords command.toList with
    | .error text => valueError text
    | .ok words =>
      if words.isEmpty || words.any List.isEmpty then
        valueError "HSAI v2 candidate verification command is empty"
      else .ok (words.map String.ofList)
  | _ => valueError "HSAI v2 candidate verification command must be a string"

def executedCommandVector (declared : List String) : Json → Except PyError (List String)
  | .obj result =>
    match textList (valueAt result "argv") with
    | some (executable :: arguments) =>
      if (executable :: arguments).any (· == "") then
        valueError "HSAI v2 preflight test argv is invalid"
      else if !("/".toList.isPrefixOf executable.toList) || arguments != declared.drop 1 then
        valueError
          "HSAI v2 preflight argv is not bound to the declared verification command"
      else .ok (executable :: arguments)
    | _ => valueError "HSAI v2 preflight test argv is invalid"
  | _ => valueError "HSAI v2 preflight test result must be an object"

variable (parameters : Dict)

/-- The commands of `_normalized_repo_patch_candidate`. -/
def commandVectors (preflightReceipt : Json) :
    Except PyError (List (List String)) := do
  let declared ← match parameters.get? "test_commands" with
    | some (.arr (command :: rest)) => (command :: rest).mapM declaredCommandVector
    | _ => valueError "HSAI v2 candidate requires verification commands"
  match preflightReceipt with
  | .obj receipt =>
    match Dict.get? receipt "test_results" with
    | some (.arr results) => do
      rejectIf (results.length != declared.length)
        ⟨.valueError,
          "HSAI v2 preflight commands do not match the declared verification commands"⟩
      (declared.zip results).mapM fun (argv, result) => executedCommandVector argv result
    | _ =>
      valueError "HSAI v2 preflight commands do not match the declared verification commands"
  | _ => .error ⟨.exception, "object has no attribute 'get'"⟩

/-- `actor_ref` of a candidate. -/
def actorRef : Json :=
  let actor := membersAt parameters "actor_ref"
  .obj
    [("actor_id", .str (pyStr (orElse (actor.get? "actor_id")
        (orElse (parameters.get? "actor_id") (.str "mesh.orchestrator"))))),
     ("team_id", .str (pyStr (orElse (actor.get? "team_id")
        (orElse (parameters.get? "team_id") (.str "mesh.default")))))]

def normalizedRepoPatchCandidate (preflightReceipt : Json) : Except PyError Dict := do
  let parameters := d.parameters
  rejectIf (!Json.pyEqOpt (d.executionPlan.get? "system") (some (.str "repo_patch_service")) ||
      !Json.pyEqOpt (d.executionPlan.get? "action") (some (.str "investigate_and_patch")))
    ⟨.valueError, "HSAI v2 candidate is not the bounded repo-patch action"⟩
  let declaredActionId := valueAt parameters "mesh_action_id"
  rejectIf (decide (declaredActionId ≠ .null) && pyStr declaredActionId != d.decisionId)
    ⟨.valueError, "HSAI v2 candidate mesh action id must equal the decision id"⟩
  let patchTemplate := membersAt parameters "patch_template"
  let commands ← commandVectors parameters preflightReceipt
  let protectedPaths := match parameters.get? "protected_paths" with
    | some paths => stringList paths
    | none => defaultProtectedRepoPaths
  return [
    ("decision_id", .str d.decisionId),
    ("trigger_id", .str d.triggerId),
    ("decision_type", .str d.decisionType),
    ("autonomy_tier", .str d.autonomyTier),
    ("summary", .str d.summary),
    ("reasoning", .obj d.reasoning),
    ("expected_outcome", .obj d.expectedOutcome),
    ("risk", .obj d.risk),
    ("confidence", d.confidence),
    ("execution_plan", .obj [
      ("system", .str "repo_patch_service"),
      ("action", .str "investigate_and_patch"),
      ("parameters", .obj [
        ("repo_path", .str (textOrEmpty parameters "repo_path")),
        ("allowed_paths", .arr ((stringList (valueAt parameters "allowed_paths")).map .str)),
        ("protected_paths", .arr (protectedPaths.map .str)),
        ("patch_template", .obj [
          ("target_file", .str (textOrEmpty patchTemplate "target_file")),
          ("find", .str (textOrEmpty patchTemplate "find")),
          ("replace", .str (textOrEmpty patchTemplate "replace"))]),
        ("test_commands", .arr (commands.map fun argv => .arr (argv.map .str))),
        ("mesh_run_id", .str (expectedMeshRunId d)),
        ("mesh_action_id", .str d.decisionId),
        ("mesh_policy_id", .str (meshPolicyId d evaluation parameters)),
        ("actor_ref", actorRef parameters)]),
      ("rollback_plan", .str (textOrEmpty d.executionPlan "rollback_plan"))])]

variable (request : Dict)

def validateHsaiRequestPayload : Except PyError Unit :=
  if Json.pyEqOpt (request.get? "schema_version") (some (.str hsaiAdmissionRequestVersion)) then
    validatePayload hsaiAdmissionRequestSchema (.obj request)
  else if Json.pyEqOpt (request.get? "schema_version")
      (some (.str hsaiAdmissionRequestV2Version)) then
    validatePayload hsaiAdmissionRequestV2Schema (.obj request)
  else valueError "unsupported HSAI admission request schema version"

/-- `d[key]` as a list of texts.  The schemas leave no other value in the
members this is used on. -/
def requireTexts (d : Dict) (key : String) : Except PyError (List String) := do
  let value ← requireKey d key
  match textList value with
  | some texts => .ok texts
  | none => .error ⟨.typeError, "unhashable type"⟩

/-- `if left[leftKey] != right[rightKey]: raise ValueError(text)`. -/
def requireSame (left : Dict) (leftKey : String) (right : Dict) (rightKey text : String) :
    Except PyError Unit := do
  let leftValue ← requireKey left leftKey
  let rightValue ← requireKey right rightKey
  rejectIf (!Json.pyEq leftValue rightValue) ⟨.valueError, text⟩

def validateHsaiDecision (request decision : Dict) : Except PyError Unit := do
  validateHsaiRequestPayload request
  validatePayload hsaiAdmissionDecisionSchema (.obj decision)
  let requestDigest ← requireKey decision "request_digest"
  requireDigest "hsai request digest" requestDigest
  let candidateDigest ← requireKey decision "candidate_digest"
  requireDigest "hsai candidate digest" candidateDigest
  let decisionDigest ← requireKey decision "decision_digest"
  requireDigest "hsai decision digest" decisionDigest
  let proposalDigest ← requireKey request "action_proposal_digest"
  requireDigest "hsai request action_proposal_digest" proposalDigest
  let payloadDigest ← requireKey request "candidate_payload_digest"
  requireDigest "hsai request candidate_payload_digest" payloadDigest
  let evidenceDigest ← requireKey request "evidence_packet_digest"
  requireDigest "hsai request evidence_packet_digest" evidenceDigest
  rejectIf (!Json.pyEq requestDigest (.str (canonicalDigest sha (.obj request))))
    ⟨.valueError, "hsai request digest mismatch"⟩
  requireSame decision "mesh_run_id" request "mesh_run_id" "hsai mesh run id mismatch"
  requireSame decision "mesh_action_id" request "mesh_action_id" "hsai mesh action id mismatch"
  requireSame decision "action_kind" request "action_kind" "hsai action kind mismatch"
  rejectIf (!Json.pyEq candidateDigest payloadDigest)
    ⟨.valueError, "hsai candidate digest mismatch"⟩
  requireSame decision "admission_policy_id" request "mesh_policy_id" "hsai policy id mismatch"
  let verdict ← requireKey decision "decision"
  let nonclaims ← requireTexts request "explicit_nonclaims"
  rejectIf (Json.pyEq verdict (.str "allow") && nonclaims.isEmpty)
    ⟨.valueError, "hsai request missing explicit nonclaims"⟩
  let enforced ← requireTexts decision "enforced_nonclaims"
  rejectIf (!(missingFrom nonclaims enforced).isEmpty)
    ⟨.valueError,
      "hsai enforced nonclaims missing: " ++ textsRepr (missingFrom nonclaims enforced)⟩
  rejectIf (!Json.pyEq decisionDigest (.str (admissionDecisionDigest sha decision)))
    ⟨.valueError, "hsai decision digest mismatch"⟩

/-- `request.get("schema_version") == HSAI_ADMISSION_REQUEST_V2_VERSION`. -/
def isV2Request : Bool :=
  Json.pyEqOpt (request.get? "schema_version") (some (.str hsaiAdmissionRequestV2Version))

/-- The digest of a version 2 candidate, which must be the digest of the
candidate spelled out in the same request; the evidence likewise. -/
def candidateDigestInRequest : Except PyError Json := do
  let payloadDigest ← requireKey request "candidate_payload_digest"
  rejectIf (!Json.pyEq payloadDigest
      (.str (canonicalDigest sha (.obj (membersAt request "candidate_payload")))))
    ⟨.valueError, "bridge gate v2 candidate payload digest mismatch"⟩
  let evidenceDigest ← requireKey request "evidence_packet_digest"
  rejectIf (!Json.pyEq evidenceDigest
      (.str (canonicalDigest sha (.obj (membersAt request "pre_execution_evidence")))))
    ⟨.valueError, "bridge gate v2 evidence packet digest mismatch"⟩
  return payloadDigest

/-- The checks of `validate_bridge_gate` against the expected decision. -/
def checkExpectedDecision (d : ContractDecision) :
    Except PyError Unit := do
  let expectedCandidateDigest ←
    if isV2Request request then candidateDigestInRequest sha request
    else do
      let payload ← decisionPayloadWithoutHsaiContext d
      pure (.str (canonicalDigest sha (.obj payload)))
  let runId ← requireKey request "mesh_run_id"
  rejectIf (!Json.pyEq runId (.str (expectedMeshRunId d)))
    ⟨.valueError, "bridge gate mesh run id mismatch"⟩
  let actionId ← requireKey request "mesh_action_id"
  rejectIf (!Json.pyEq actionId (.str (expectedMeshActionId d)))
    ⟨.valueError, "bridge gate mesh action id mismatch"⟩
  let payloadDigest ← requireKey request "candidate_payload_digest"
  rejectIf (!Json.pyEq payloadDigest expectedCandidateDigest)
    ⟨.valueError, "bridge gate current candidate digest mismatch"⟩
  let candidate ←
    if isV2Request request then pure (membersAt request "candidate_payload") else d.toDict
  let decisionId ← requireKey candidate "decision_id"
  let executionPlan ← requireKey candidate "execution_plan"
  let risk ← requireKey candidate "risk"
  let proposalDigest ← requireKey request "action_proposal_digest"
  rejectIf (!Json.pyEq proposalDigest (.str (canonicalDigest sha (.obj
      [("decision_id", decisionId), ("execution_plan", executionPlan), ("risk", risk)]))))
    ⟨.valueError, "bridge gate action proposal digest mismatch"⟩

/-- The checks of `validate_bridge_gate` against the expected evaluation of the
expected decision. -/
def checkExpectedEvaluation (d : ContractDecision)
    (evaluation : EvaluationResult) : Except PyError Unit := do
  let policyId ← requireKey request "mesh_policy_id"
  rejectIf (!Json.pyEq policyId (.str (meshPolicyId d evaluation d.parameters)))
    ⟨.valueError, "bridge gate mesh policy id mismatch"⟩
  if isV2Request request then
    let evidence := membersAt request "pre_execution_evidence"
    let expected ← normalizedRepoPatchCandidate d evaluation
      ((evidence.get? "preflight_receipt").getD (.obj []))
    rejectIf (!Json.pyEqOpt (request.get? "candidate_payload") (some (.obj expected)))
      ⟨.valueError, "bridge gate v2 current candidate payload mismatch"⟩
    rejectIf (!Json.pyEqOpt (evidence.get? "decision_id") (some (.str d.decisionId)))
      ⟨.valueError, "bridge gate v2 evidence decision mismatch"⟩
    rejectIf (!Json.pyEqOpt (evidence.get? "evaluation_id") (some (.str evaluation.evaluationId)))
      ⟨.valueError, "bridge gate v2 evaluation id mismatch"⟩
    rejectIf (decide (evidence.get? "evaluation_passed" ≠ some (.bool evaluation.passed)))
      ⟨.valueError, "bridge gate v2 evaluation verdict mismatch"⟩
    rejectIf (!Json.pyEqOpt (evidence.get? "final_recommendation")
        (some (.str evaluation.finalRecommendation)))
      ⟨.valueError, "bridge gate v2 recommendation mismatch"⟩
    rejectIf (!Json.pyEqOpt (evidence.get? "blocking_reasons")
        (some (.arr (evaluation.blockingReasons.map .str))))
      ⟨.valueError, "bridge gate v2 blocking reasons mismatch"⟩
    rejectIf (!Json.pyEqOpt (evidence.get? "stage_results") (some evaluation.stageResults))
      ⟨.valueError, "bridge gate v2 stage results mismatch"⟩
    rejectIf (!Json.pyEqOpt (evidence.get? "stage_results_digest")
        (some (.str (canonicalDigest sha evaluation.stageResults))))
      ⟨.valueError, "bridge gate v2 stage results digest mismatch"⟩
  else return ()

/-- The members of a request that a gate must not leave blank. -/
def gateFields : List String :=
  ["mesh_run_id", "mesh_action_id", "mesh_policy_id", "action_proposal_digest",
   "candidate_payload_digest", "evidence_packet_digest"]

def validateBridgeGate (gate : Dict) (expectedDecision : Option ContractDecision)
    (expectedEvaluation : Option EvaluationResult) (requireApproved : Bool) :
    Except PyError Unit := do
  let request := membersAt gate "request"
  let decision := membersAt gate "decision"
  validateHsaiDecision sha request decision
  rejectIf (!Json.pyEqOpt (gate.get? "request_digest")
      (some (.str (canonicalDigest sha (.obj request)))))
    ⟨.valueError, "bridge gate request digest mismatch"⟩
  let decisionDigest ← requireKey decision "decision_digest"
  rejectIf (!Json.pyEqOpt (gate.get? "decision_digest") (some decisionDigest))
    ⟨.valueError, "bridge gate decision digest mismatch"⟩
  let payloadDigest ← requireKey request "candidate_payload_digest"
  rejectIf (!Json.pyEqOpt (gate.get? "candidate_digest") (some payloadDigest))
    ⟨.valueError, "bridge gate candidate digest mismatch"⟩
  match gateFields.find? fun field => isBlank (textOrEmpty request field) with
  | some field => valueError ("bridge gate missing " ++ field)
  | none =>
    rejectIf (!Json.pyEqOpt (request.get? "action_kind") (some (.str "repo_patch")))
      ⟨.valueError, "bridge gate action kind mismatch"⟩
    match expectedDecision with
    | none => pure ()
    | some d => checkExpectedDecision sha request d
    match expectedEvaluation with
    | none => pure ()
    | some evaluation => do
      match expectedDecision with
      | none => pure ()
      | some d => checkExpectedEvaluation sha request d evaluation
      rejectIf (requireApproved && !meshPolicyAllows evaluation)
        ⟨.valueError, "bridge gate Mesh policy is not approved"⟩
    let verdict ← requireKey decision "decision"
    let allowed := decide (gate.get? "allowed" = some (.bool true))
    rejectIf (Json.pyEq verdict (.str "allow") && !allowed)
      ⟨.valueError, "bridge gate allow flag mismatch"⟩
    rejectIf (!Json.pyEq verdict (.str "allow") && allowed)
      ⟨.valueError, "bridge gate deny/error flag mismatch"⟩

def gateFromVerifiedContracts (request decision : Dict) :
    Except PyError Dict := do
  let verdict ← requireKey decision "decision"
  let decisionDigest ← requireKey decision "decision_digest"
  let candidateDigest ← requireKey decision "candidate_digest"
  return [
    ("allowed", .bool (Json.pyEq verdict (.str "allow"))),
    ("request", .obj request),
    ("decision", .obj decision),
    ("request_digest", .str (canonicalDigest sha (.obj request))),
    ("decision_digest", decisionDigest),
    ("candidate_digest", candidateDigest),
    ("reason_codes", orElse (decision.get? "reason_codes") (.arr []))]

/-- The comparison of the admitted candidate with the decision at hand in
`validate_hsai_execution_context`. -/
def checkBoundDecision (request admission : Dict) (payloadDigest : Json)
    (d : ContractDecision) : Except PyError Unit :=
  if isV2Request request then do
    let gate ← gateFromVerifiedContracts sha request admission
    validateBridgeGate sha gate (some d) none false
  else do
    let payload ← decisionPayloadWithoutHsaiContext d
    rejectIf (!Json.pyEq payloadDigest (.str (canonicalDigest sha (.obj payload))))
      ⟨.valueError, "HSAI execution context decision payload mismatch"⟩

def validateHsaiExecutionContext (d : ContractDecision) :
    Except PyError Dict := do
  let context := membersAt d.parameters hsaiExecutionContextKey
  rejectIf (!Json.pyEqOpt (context.get? "schema_version")
      (some (.str hsaiExecutionContextVersion)))
    ⟨.valueError, "missing or unsupported HSAI execution context"⟩
  let request := membersAt context "request"
  let admission := membersAt context "decision"
  validateHsaiDecision sha request admission
  let runId ← requireKey request "mesh_run_id"
  rejectIf (!Json.pyEq runId (.str (expectedMeshRunId d)))
    ⟨.valueError, "HSAI execution context mesh run id mismatch"⟩
  let actionId ← requireKey request "mesh_action_id"
  rejectIf (!Json.pyEq actionId (.str (expectedMeshActionId d)))
    ⟨.valueError, "HSAI execution context mesh action id mismatch"⟩
  rejectIf (!Json.pyEqOpt (context.get? "request_digest")
      (some (.str (canonicalDigest sha (.obj request)))))
    ⟨.valueError, "HSAI execution context request digest mismatch"⟩
  let decisionDigest ← requireKey admission "decision_digest"
  rejectIf (!Json.pyEqOpt (context.get? "decision_digest") (some decisionDigest))
    ⟨.valueError, "HSAI execution context decision digest mismatch"⟩
  let payloadDigest ← requireKey request "candidate_payload_digest"
  rejectIf (!Json.pyEqOpt (context.get? "candidate_digest") (some payloadDigest))
    ⟨.valueError, "HSAI execution context candidate digest mismatch"⟩
  checkBoundDecision sha request admission payloadDigest d
  let verdict ← requireKey admission "decision"
  rejectIf (!Json.pyEq verdict (.str "allow"))
    ⟨.valueError, "HSAI execution context is not allow"⟩
  return context

def attestationRefs (kind digest : String) : Json :=
  .arr [.obj [("kind", .str kind), ("digest", .str digest)]]

end OrbitalMesh
