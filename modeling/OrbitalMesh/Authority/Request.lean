import OrbitalMesh.Patch.Executor

/-!
# Requests to the authority service

What a client sends to `RepoPatchAuthorityService`, and the checks that a
request goes through before any record is made for it
(`shared/mesh_runtime/repo_patch_authority.py` and the beginning of
`handle_request`): the operation with its gate and its preflight receipt, the
evaluation, the decision and the time window.
-/

namespace OrbitalMesh

def authorityRequestVersion : String := "mesh.repo_patch_authority_request.v1"

def clientRequestSigningProfile : String := "mesh-repo-patch-authority-client-ed25519-v1"

/-- A request asks for a preflight, or for the execution of a patch under a
gate and the receipt of an earlier preflight. -/
inductive Operation where
  | preflight
  | execute (gate receipt : Dict)

def Operation.text : Operation → String
  | .preflight => "preflight"
  | .execute _ _ => "execute"

variable (d : Dict) (key : String)

/-- `set(d) == keys`. -/
def hasKeys (keys : List String) : Bool :=
  keys.all (fun key => (d.get? key).isSome) && d.all fun member => keys.contains member.1

/-- `^[0-9a-f]{40,64}$`, matched in full. -/
def isGitObject (value : String) : Bool :=
  let bytes := value.toUTF8.data.toList
  decide (40 ≤ bytes.length) && decide (bytes.length ≤ 64) &&
    bytes.all fun b => (48 ≤ b && b ≤ 57) || (97 ≤ b && b ≤ 102)

def textPasses (test : String → Bool) : Bool :=
  match d.get? key with
  | some (.str text) => test text
  | _ => false

/-- A relative path in its normal form that stays below its start. -/
def isPortablePath (path : String) : Bool :=
  !isAbsolutePath path && !(pathNames path.toList).contains ['.', '.'] &&
    pathText path == path && path != "" && path != "."

/-- One round of the loop of `validate_preflight_receipt` over the test
results. -/
def validateTestResult (value : Json) : Except PyError Unit :=
  match value with
  | .obj result => do
    rejectIf (!hasKeys result ["argv", "returncode", "stdout_digest", "stderr_digest"])
      ⟨.valueError, "repo patch preflight test result fields rejected"⟩
    let argv := textList (valueAt result "argv")
    rejectIf (!(argv.map fun words => !words.isEmpty && words.all (· != "")).getD false)
      ⟨.valueError, "repo patch preflight test argv rejected"⟩
    match Dict.get? result "returncode" with
    | some (.int _) => .ok ()
    | _ => valueError "repo patch preflight test return code rejected"
    rejectIf (!textPasses result "stdout_digest" isSha256Digest)
      ⟨.valueError, "repo patch preflight test stdout_digest rejected"⟩
    rejectIf (!textPasses result "stderr_digest" isSha256Digest)
      ⟨.valueError, "repo patch preflight test stderr_digest rejected"⟩
  | _ => valueError "repo patch preflight test result fields rejected"

def preflightReceiptKeys : List String :=
  ["state_slice", "base_commit", "base_tree", "target_path", "target_preimage_digest",
   "target_postimage_digest", "authorized_diff_digest", "changed_paths", "test_results"]

def validatePreflightReceipt (receipt : Dict) : Except PyError Unit := do
  rejectIf (!hasKeys receipt preflightReceiptKeys)
    ⟨.valueError, "repo patch preflight receipt fields rejected"⟩
  rejectIf (!textPasses receipt "state_slice" (· == preflightStateSlice))
    ⟨.valueError, "repo patch preflight receipt state slice rejected"⟩
  rejectIf (!textPasses receipt "base_commit" isGitObject)
    ⟨.valueError, "repo patch preflight receipt base commit rejected"⟩
  rejectIf (!textPasses receipt "base_tree" isGitObject)
    ⟨.valueError, "repo patch preflight receipt base tree rejected"⟩
  rejectIf (!textPasses receipt "target_path" isPortablePath)
    ⟨.valueError, "repo patch preflight receipt target path rejected"⟩
  rejectIf (!textPasses receipt "target_preimage_digest" isSha256Digest)
    ⟨.valueError, "repo patch preflight receipt target_preimage_digest rejected"⟩
  rejectIf (!textPasses receipt "target_postimage_digest" isSha256Digest)
    ⟨.valueError, "repo patch preflight receipt target_postimage_digest rejected"⟩
  rejectIf (!textPasses receipt "authorized_diff_digest" isSha256Digest)
    ⟨.valueError, "repo patch preflight receipt authorized_diff_digest rejected"⟩
  rejectIf (!Json.pyEqOpt (receipt.get? "changed_paths")
      (some (.arr [valueAt receipt "target_path"])))
    ⟨.valueError, "repo patch preflight receipt changed paths rejected"⟩
  match receipt.get? "test_results" with
  | some (.arr (first :: rest)) => (first :: rest).forM validateTestResult
  | _ => valueError "repo patch preflight receipt requires test results"

/-- `validate_authority_request_operation`, with the operation it accepts. -/
def validateAuthorityRequestOperation (body : Dict) : Except PyError Operation :=
  if Json.pyEqOpt (body.get? "operation") (some (.str "preflight")) then
    if valueAt body "hsai_gate" = .null ∧ valueAt body "preflight_receipt" = .null then
      .ok .preflight
    else
      valueError
        "repo patch authority preflight must not carry an HSAI gate or preflight receipt"
  else if Json.pyEqOpt (body.get? "operation") (some (.str "execute")) then
    match body.get? "hsai_gate", body.get? "preflight_receipt" with
    | some (.obj gate), some (.obj receipt) => do
      validatePreflightReceipt receipt
      return .execute gate receipt
    | _, _ =>
      valueError "repo patch authority execute requires an HSAI gate and preflight receipt"
  else valueError "repo patch authority operation is invalid"

def evaluationFromPayload (payload : Json) : Except PyError EvaluationResult :=
  match payload with
  | .obj members => do
    let d : Dict := members
    let required := ["evaluation_id", "decision_id", "passed", "final_recommendation",
      "stage_results", "blocking_reasons"]
    rejectIf (!(required.all (fun key => (d.get? key).isSome) &&
        d.all fun member => (required ++ ["review_route"]).contains member.1))
      ⟨.valueError, "authority evaluation payload fields rejected"⟩
    match d.get? "evaluation_id", d.get? "decision_id" with
    | some (.str evaluationId), some (.str decisionId) =>
      match d.get? "passed", d.get? "final_recommendation" with
      | some (.bool passed), some (.str finalRecommendation) =>
        match d.get? "stage_results" with
        | some (.obj stageResults) =>
          match textList (valueAt d "blocking_reasons") with
          | some blockingReasons =>
            match valueAt d "review_route" with
            | .null => return ⟨evaluationId, decisionId, passed, finalRecommendation,
                .obj stageResults, blockingReasons, none⟩
            | .str route => return ⟨evaluationId, decisionId, passed,
                finalRecommendation, .obj stageResults, blockingReasons, some route⟩
            | _ => valueError "authority evaluation review route rejected"
          | none => valueError "authority evaluation blocking reasons rejected"
        | _ => valueError "authority evaluation stage results rejected"
      | _, _ => valueError "authority evaluation verdict fields rejected"
    | _, _ => valueError "authority evaluation identity fields rejected"
  | _ => valueError "authority evaluation payload must be an object"

/-- The members of a JSON object, or none of them. -/
def membersAt : Dict :=
  match d.get? key with
  | some (.obj members) => members
  | _ => []

/-- `Decision.from_dict`: the decision schema fixes the types of the members
that are read here. -/
def decisionFromDict (validateDecision : Json → Except PyError Unit) (payload : Json) :
    Except PyError Decision := do
  validateDecision payload
  match payload with
  | .obj members =>
    let d : Dict := members
    let plan := membersAt d "execution_plan"
    return {
      decisionId := textAt d "decision_id"
      system := textAt plan "system"
      action := textAt plan "action"
      parameters := membersAt plan "parameters" }
  | _ => .error ⟨.schemaValidationError, "decision.schema.json"⟩

/-- What the service reads of its admission adapter. -/
structure HsaiAdapter where
  identity : String
  authorityEligible : Bool

/-- The configuration of the service, with the checks and bounds of `__init__`. -/
structure ServiceConfig where
  allowedUids : List Int
  clientPublicKeys : Table String
  authorityKeyId : String
  responseTtlSeconds : Int
  ttl_positive : 1 ≤ responseTtlSeconds
  ttl_bounded : responseTtlSeconds ≤ 60
  adapter : Option HsaiAdapter
  hasVerifier : Bool
  validateRequest : Json → Except PyError Unit
  validateDecision : Json → Except PyError Unit
  verifyProof : Dict → Dict → String → Except PyError Bool
  signResponse : Dict → Json
  parseTime : String → Except PyError Instant

variable (config : ServiceConfig)

/-- `str(adapter.adapter_identity or "")`, or the empty text without an
adapter. -/
def ServiceConfig.adapterIdentity : String :=
  (config.adapter.map HsaiAdapter.identity).getD ""

def ServiceConfig.adapterReady : Bool :=
  match config.adapter with
  | none => false
  | some adapter => adapter.authorityEligible && adapter.identity != ""

def requestTimes (body : Dict) :
    Except PyError (Instant × Instant) := do
  let issuedAt ← requireKey body "issued_at"
  let issuedAt ← config.parseTime (pyStr issuedAt)
  let expiresAt ← requireKey body "expires_at"
  let expiresAt ← config.parseTime (pyStr expiresAt)
  return (issuedAt, expiresAt)

def requestTimeIsValid (body : Dict) : Py Bool := do
  let times ← tryExcept [.keyError, .typeError, .valueError] (pure? (requestTimes config body))
  match times with
  | .error _ => return false
  | .ok (issuedAt, expiresAt) =>
    let now ← clockNow
    let horizon ← pure? (addSeconds now 5)
    return decide (issuedAt ≤ horizon) && decide (issuedAt < expiresAt) &&
      decide (expiresAt - issuedAt ≤ 60000000) && decide (now ≤ expiresAt)

/-- A request that has passed the checks, with the peer that sent it. -/
structure AuthorityOrder where
  request : Dict
  body : Dict
  operation : Operation
  idempotencyKey : String
  clientKeyId : String
  decision : Decision
  evaluation : EvaluationResult
  peerUid : Int
  peerGid : Int

/-- `d[key]`, which is used as a mapping. -/
def requireMembers : Except PyError Dict := do
  let value ← requireKey d key
  match value with
  | .obj members => return members
  | _ => .error ⟨.exception, "object has no attribute 'get'"⟩

def clientProofAccepted (body proof : Dict) : Except PyError Bool :=
  let clientKeyId := textOrEmpty body "client_key_id"
  if !Json.pyEqOpt (proof.get? "key_id") (some (.str clientKeyId)) ||
      !Json.pyEqOpt (proof.get? "signing_profile") (some (.str clientRequestSigningProfile)) then
    .ok false
  else
    match config.clientPublicKeys[clientKeyId]? with
    | none => .ok false
    | some publicKey =>
      if publicKey = "" then .ok false else config.verifyProof body proof publicKey

/-- The schema check of `handle_request` and the look at the version. -/
def openRequest (request : Dict) : Except PyError (Dict × Dict) := do
  config.validateRequest (.obj request)
  let body ← requireMembers request "body"
  let proof ← requireMembers request "authorization_proof"
  rejectIf (!Json.pyEqOpt (body.get? "schema_version") (some (.str authorityRequestVersion)))
    ⟨.valueError, "request version mismatch"⟩
  return (body, proof)

/-- What `handle_request` reads of a body whose proof and times are accepted;
a permit attached by the client is refused with a code. -/
def readOrder (request body : Dict) (peerUid peerGid : Int) :
    Except PyError (Except String AuthorityOrder) := do
  let operation ← validateAuthorityRequestOperation body
  let payload ← requireKey body "decision"
  let decision ← decisionFromDict config.validateDecision payload
  let payload ← requireKey body "evaluation"
  let evaluation ← evaluationFromPayload payload
  if (decision.parameters.get? hsaiExecutionContextKey).isSome then
    return .error "pre_attached_permit_rejected"
  else
    let idempotencyKey ← requireKey body "idempotency_key"
    return .ok
      { request, body, operation, decision, evaluation, peerUid, peerGid
        idempotencyKey := pyStr idempotencyKey
        clientKeyId := textOrEmpty body "client_key_id" }

/-- The checks of `handle_request` before it turns to the authority store: an
accepted request, or the code of the rejection. -/
def acceptRequest (request : Dict) (peerUid peerGid : Int) :
    Py (Except String AuthorityOrder) := do
  let (body, proof) ← pure? (openRequest config request)
  let accepted ← pure? (clientProofAccepted config body proof)
  if !accepted then
    return .error "client_signature_rejected"
  else
    let timely ← requestTimeIsValid config body
    if !timely then
      return .error "request_time_rejected"
    else
      pure? (readOrder config request body peerUid peerGid)

end OrbitalMesh
