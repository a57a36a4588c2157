import OrbitalMesh.Authority.Request

/-!
# The authority service

`RepoPatchAuthorityService.handle_request`
(`services/actuators/repo_patch_authority_service.py`).  The record of a request is
issued or found, leased, marked as dispatched, and completed with the result that
the response carries, in the version it had when it was leased.  In between the
patch is prepared in a disposable worktree and verified; an execution then promotes
it under a permit.
-/

namespace OrbitalMesh

def authorityResponseVersion : String := "mesh.repo_patch_authority_response.v1"

def authorityStateSlice : String := "mesh.repo_patch_authority_service.v1"

def authorityLifecycleStateSlice : String := "mesh.repo_patch_authority_store_lifecycle.v1"

/-- The `status` of a response. -/
inductive ResponseStatus where
  | completed
  | rejected

def ResponseStatus.text : ResponseStatus → String
  | .completed => "completed"
  | .rejected => "rejected"

structure ResponseBody where
  requestId : String
  idempotencyKey : String
  status : ResponseStatus
  executionResult : Dict
  receipt : Dict
  rejection : Option Dict
  issuedAt : Instant
  expiresAt : Instant

def jsonObject (value : Option Dict) : Json := (value.map Json.obj).getD .null

def ResponseBody.toDict (b : ResponseBody) : Dict :=
  [("schema_version", .str authorityResponseVersion),
   ("request_id", .str b.requestId),
   ("idempotency_key", .str b.idempotencyKey),
   ("status", .str b.status.text),
   ("execution_result", .obj b.executionResult),
   ("receipt", .obj b.receipt),
   ("rejection", jsonObject b.rejection),
   ("issued_at", .str (formatTime b.issuedAt)),
   ("expires_at", .str (formatTime b.expiresAt))]

structure AuthorityResponse extends ResponseBody where
  authorizationProof : Json

/-- `str(d.get(key) or "unavailable")`. -/
def textOrUnavailable (d : Dict) (key : String) : String :=
  match d.get? key with
  | some value => if truthy value then pyStr value else "unavailable"
  | none => "unavailable"

/-- Who has asked: the request and the peer it came from. -/
structure Caller where
  request : Dict
  peerUid : Int
  peerGid : Int

variable (host : Host) (config : ServiceConfig)

/-- `_signed_response`.  The response schema accepts every response that is
built here. -/
def signedResponse (caller : Caller)
    (status : ResponseStatus) (executionResult : Dict) (rejection : Option Dict)
    (authenticatedClientKeyId : Option String) : Py AuthorityResponse := do
  let body := membersAt caller.request "body"
  let now ← clockNow
  let expiresAt ← pure? (addSeconds now config.responseTtlSeconds)
  let receipt : Dict :=
    [("state_slice", .str authorityStateSlice),
     ("authority_key_id", .str config.authorityKeyId),
     ("declared_client_key_id", .str (textOrUnavailable body "client_key_id")),
     ("authenticated_client_key_id", jsonText authenticatedClientKeyId),
     ("peer_uid", .int caller.peerUid),
     ("peer_gid", .int caller.peerGid),
     ("request_digest", .str (canonicalDigest host.sha (.obj body))),
     ("execution_result_digest", .str (canonicalDigest host.sha (.obj executionResult))),
     ("completed_at", .str (formatTime now))]
  let signed : ResponseBody :=
    { requestId := textOrUnavailable body "request_id"
      idempotencyKey := textOrUnavailable body "idempotency_key"
      status
      executionResult
      receipt
      rejection
      issuedAt := now
      expiresAt }
  return { toResponseBody := signed, authorizationProof := config.signResponse signed.toDict }

/-- The `rejection` of a response with the given code. -/
def rejectionFor (code : String) : Dict := [("code", .str code), ("retryable", .bool false)]

def signedRejection (caller : Caller) (code : String) :
    Py AuthorityResponse :=
  signedResponse host config caller .rejected (authorityFailure code) (some (rejectionFor code))
    none

def answeredRecord : AuthorityAnswer → Except PyError AuthorityRecord
  | .record record => .ok record
  | .view _ => .error ⟨.typeError, "authority store returned no record"⟩

def onRecord (call : Reading → AuthorityCall) : Py AuthorityRecord := do
  let answer ← onAuthority call
  pure? (answeredRecord answer)

variable (order : AuthorityOrder)

def lifecycleIdentity : Dict :=
  [("state_slice", .str authorityLifecycleStateSlice),
   ("operation", .str order.operation.text),
   ("client_key_id", .str order.clientKeyId),
   ("idempotency_key", .str order.idempotencyKey)]

def lifecycleKey (idempotencyKey : String) (operation : Operation) : String :=
  idempotencyKey ++ ":" ++ operation.text

/-- What the record of a request is bound to. -/
def lifecycleBinding (order : AuthorityOrder) : Dict :=
  lifecycleIdentity order ++
    [("peer_uid", .int order.peerUid),
     ("peer_gid", .int order.peerGid),
     ("decision_digest", .str (canonicalDigest host.sha (valueAt order.body "decision"))),
     ("evaluation_digest", .str (canonicalDigest host.sha (valueAt order.body "evaluation"))),
     ("hsai_gate_digest", .str (canonicalDigest host.sha (valueAt order.body "hsai_gate"))),
     ("preflight_receipt_digest",
        .str (canonicalDigest host.sha (valueAt order.body "preflight_receipt"))),
     ("hsai_adapter_identity", match order.operation with
        | .execute _ _ => .str config.adapterIdentity
        | .preflight => .null)]

def issueAuthorityLifecycle (order : AuthorityOrder) :
    Py AuthorityRecord := do
  let identity : Json := .obj (lifecycleIdentity order)
  onRecord (.issueOrGet
    ("repo_patch_authority_" ++ digestHex (canonicalDigest host.sha identity))
    (lifecycleKey order.idempotencyKey order.operation)
    (digestHex (canonicalDigest host.sha (.obj [("authority_identity", identity)])))
    (.obj (lifecycleBinding host config order)))

/-- `lease_for_dispatch` for a record, with the default lease of thirty
seconds. -/
def leaseForDispatch (record : AuthorityRecord) (leaseId : String) : Py AuthorityRecord :=
  onRecord (.leaseForDispatch record.authorityId record.version leaseId 30)

variable (record : AuthorityRecord)

def markLifecycleDispatched (leaseId : String) :
    Py AuthorityRecord :=
  onRecord (.markDispatched record.authorityId record.version leaseId)

/-- The result that is stored with a completed record. -/
def terminalResultOf (status : ResponseStatus) (executionResult : Dict)
    (rejection : Option Dict) (clientKeyId : String) : Dict :=
  [("status", .str status.text),
   ("execution_result", .obj executionResult),
   ("rejection", jsonObject rejection),
   ("authenticated_client_key_id", .str clientKeyId)]

/-- `complete_terminal` for a record. -/
def completeTerminal (record : AuthorityRecord) (leaseId : String) (outcome : TerminalOutcome)
    (result : Dict) : Py AuthorityRecord :=
  onRecord (.completeTerminal record.authorityId record.version leaseId outcome.text
    (.obj result))

/-- A record that is to be completed on behalf of a caller: its lease and the
client key that the response names. -/
structure Lease where
  caller : Caller
  clientKeyId : String
  leaseId : String

def lifecycleErrors : List ErrorClass :=
  [.authorityConflictError, .authorityStateError, .authorityStoreError, .keyError, .typeError,
   .valueError]

variable (lease : Lease) (permit : Permit) (prepared : PreparedRepoPatch) (gate : Dict)
  (key : String) (preflight : Dict)

def completeLifecycleResponse (record : AuthorityRecord) (status : ResponseStatus)
    (executionResult : Dict) (rejection : Option Dict) (outcome : TerminalOutcome) :
    Py AuthorityResponse := do
  let completed ← tryExcept lifecycleErrors
    (completeTerminal record lease.leaseId outcome
      (terminalResultOf status executionResult rejection lease.clientKeyId))
  match completed with
  | .error _ =>
    signedRejection host config lease.caller "authority_lifecycle_completion_failed"
  | .ok _ =>
    signedResponse host config lease.caller status executionResult rejection
      (some lease.clientKeyId)

def completeLifecycleRejection (record : AuthorityRecord) (code : String)
    (outcome : TerminalOutcome) : Py AuthorityResponse :=
  completeLifecycleResponse host config lease record .rejected (authorityFailure code)
    (some (rejectionFor code)) outcome

def outcomeFor (result : Dict) : TerminalOutcome :=
  if Json.pyEqOpt (result.get? "status") (some (.str "succeeded")) then .succeeded else .failed

def terminalizeDispatched (clientKeyId : String)
    (executionResult : Dict) (outcome : TerminalOutcome) : Py AuthorityRecord :=
  match record.leaseId with
  | some leaseId =>
    if leaseId = "" then
      pure? (.error ⟨.authorityStateError,
        "dispatched authority lifecycle is missing its fencing lease"⟩)
    else
      completeTerminal record leaseId outcome
        (terminalResultOf .completed executionResult none clientKeyId)
  | none =>
    pure? (.error ⟨.authorityStateError,
      "dispatched authority lifecycle is missing its fencing lease"⟩)

def unknownResult : Dict :=
  [("status", .str "failed"),
   ("external_refs", .obj
      [("authority_outcome", .str "unknown_after_dispatch"), ("recovery_required", .bool true)]),
   ("failure", .obj [("reason", .str "authority_outcome_unknown_after_dispatch")]),
   ("retryable", .bool false)]

def terminalizeDispatchedUnknown (clientKeyId : String) :
    Py AuthorityRecord :=
  terminalizeDispatched record clientKeyId unknownResult .unknown

def reconcileDispatchedLifecycle (record : AuthorityRecord) : Py AuthorityRecord := do
  let terminal ← onLedger (.terminalResultForReplay order.decision order.evaluation gate
    order.idempotencyKey)
  match terminal with
  | none => terminalizeDispatchedUnknown record order.clientKeyId
  | some result => terminalizeDispatched record order.clientKeyId result (outcomeFor result)

def finishDispatched (record : AuthorityRecord) : Py AuthorityRecord :=
  match order.operation with
  | .execute gate _ => reconcileDispatchedLifecycle order gate record
  | .preflight => terminalizeDispatchedUnknown record order.clientKeyId

/-- The parts of a stored result, as `_signed_terminal_replay` checks them. -/
def replayedParts :
    Except PyError (ResponseStatus × Dict × Option Dict × String) :=
  match record.terminalResult with
  | some (.obj members) =>
    let terminal : Dict := members
    let status : Option ResponseStatus := match terminal.get? "status" with
      | some (.str "completed") => some .completed
      | some (.str "rejected") => some .rejected
      | _ => none
    match status, terminal.get? "execution_result", valueAt terminal "rejection",
        terminal.get? "authenticated_client_key_id" with
    | some status, some (.obj result), .null, some (.str client) =>
      .ok (status, result, none, client)
    | some status, some (.obj result), .obj rejection, some (.str client) =>
      .ok (status, result, some rejection, client)
    | _, _, _, _ => .error ⟨.authorityStoreError,
        "terminal authority lifecycle result is malformed"⟩
  | _ => .error ⟨.authorityStoreError, "terminal authority lifecycle result is missing"⟩

def signedTerminalReplay (caller : Caller)
    (record : AuthorityRecord) : Py AuthorityResponse := do
  let (status, executionResult, rejection, client) ← pure? (replayedParts record)
  signedResponse host config caller status executionResult rejection (some client)

/-- One round of the loop of `RepoPatchTestCommandPolicy.authorize`. -/
def authorizePolicyCommand (command : String) : Py AuthorizedTestCommand := do
  raiseIf (usesShellSyntax command)
    "repo patch verification command contains prohibited shell syntax"
  let argv ← pure? (shlexSplit command)
  match argv with
  | [] => raise "repo patch verification command is empty"
  | name :: arguments =>
    raiseIf (!host.allowedTestCommands.contains (name :: arguments))
      "repo patch verification command is not policy-authorized"
    let (executablePath, executableDigest) ← consult (.executable name)
    let commandDigest := canonicalDigest host.sha (.obj
      [("argv", .arr ((name :: arguments).map Json.str)),
       ("executable_path", .str executablePath),
       ("executable_digest", .str executableDigest)])
    return ⟨name :: arguments, executablePath, executableDigest, commandDigest⟩

/-- The loop of `RepoPatchTestCommandPolicy.authorize`. -/
def authorizePolicyCommands (host : Host) : List String → Py (List AuthorizedTestCommand)
  | [] => return []
  | command :: rest => do
    let first ← authorizePolicyCommand host command
    let others ← authorizePolicyCommands host rest
    return first :: others

/-- The checks of `_prepare_verified_patch` on the decision and its
evaluation. -/
def requirePatchDecision : Except PyError Unit := do
  rejectIf (order.evaluation.decisionId != order.decision.decisionId ||
      !order.evaluation.passed)
    ⟨.valueError, "repo patch preflight evaluation rejected"⟩
  rejectIf (order.evaluation.finalRecommendation != "execute")
    ⟨.valueError, "repo patch preflight requires an execute recommendation"⟩
  rejectIf (order.decision.system != "repo_patch_service" ||
      order.decision.action != "investigate_and_patch")
    ⟨.valueError, "repo patch preflight action rejected"⟩
  rejectIf (order.idempotencyKey != order.decision.decisionId ++ ":" ++ order.decision.action)
    ⟨.valueError, "repo patch preflight idempotency binding rejected"⟩

/-- The checks of `_prepare_verified_patch` on the scope of the patch. -/
def requirePatchScope (parameters : Dict) : Except PyError Unit :=
  match parameters.get? "patch_template", textList (valueAt parameters "allowed_paths") with
  | some (.obj template), some _ => do
    rejectIf (!config.hasVerifier)
      ⟨.valueError, "repo patch authority requires the isolated verifier client"⟩
    let _ ← requireKey parameters "repo_path"
    let _ ← requireKey template "target_file"
    let _ ← requireKey template "find"
    let _ ← requireKey template "replace"
  | _, _ => valueError "repo patch preflight patch scope rejected"

def prepareVerifiedPatch (order : AuthorityOrder) :
    Py PreparedRepoPatch := do
  let requestId ← pure? (requireKey order.body "request_id")
  pure? (requirePatchDecision order)
  let parameters := order.decision.parameters
  match textList (valueAt parameters "test_commands") with
  | none => raise "repo patch preflight test commands rejected"
  | some commands =>
    raiseIf commands.isEmpty "repo patch authority requires at least one verification command"
    let authorized ← authorizePolicyCommands host commands
    pure? (requirePatchScope config parameters)
    consult (.prepare parameters authorized (order.idempotencyKey ++ ":" ++ pyStr requestId))

/-- `with prepared: body`.  What `close` raises takes the place of whatever the
body has done. -/
def withPrepared {α : Type} (body : Py α) : Py α :=
  Atomic.Prog.bind body fun outcome => do
    let closed ← (Atomic.Prog.issue (Section.consult (.close prepared)) :
      Program (Except PyError Unit))
    match closed with
    | .ok () => pure outcome
    | .error e => pure (.error e)

def runPreflight (order : AuthorityOrder) : Py Dict := do
  let prepared ← prepareVerifiedPatch host config order
  withPrepared prepared (pure (preflightReceiptPayload host.sha prepared))

/-- `prepared.promote()`, reached for a key and a permit. -/
def promotePrepared (idempotencyKey permitId : String) (prepared : PreparedRepoPatch) :
    Py Unit :=
  (Atomic.Prog.issue (Section.promote idempotencyKey permitId prepared) :
    Program (Except PyError Unit))

/-- The condition of the `postimage mismatch` branch; the target is read only
where the promoted digest is the one of the receipt. -/
def promotionMismatch : Py Bool :=
  if !Json.pyEqOpt (some (.str (prepared.targetPostimageDigest host.sha)))
      (preflight.get? "target_postimage_digest") then
    pure true
  else do
    let current ← fileDigest host permit.targetPath
    return postimageMismatch host.sha prepared preflight current permit.targetPostimageDigest

def promotedResult (preflight receipt : Dict) (backupPath : String) : Dict :=
  [("status", .str "succeeded"),
   ("external_refs", .obj
      [("authority_receipt", .obj (receipt.set "target_postimage_digest"
          (.str (prepared.targetPostimageDigest host.sha)))),
       ("backup_path", .str backupPath),
       ("patched_files", .arr [.str prepared.relativeTarget]),
       ("preflight_receipt", .obj preflight),
       ("test_results", valueAt preflight "test_results"),
       ("verifier_receipt", jsonObject prepared.verifierReceipt),
       ("verifier_receipt_digest",
          .str (canonicalDigest host.sha (jsonObject prepared.verifierReceipt)))]),
   ("retryable", .bool false)]

/-- `_promote_verified_patch` from the state `applied` on. -/
def commitVerifiedPatch (preflight receipt : Dict) (backupPath : String) : Py Dict := do
  let mismatch ← promotionMismatch host permit prepared preflight
  if mismatch then
    abortWithRestoration host permit .applied "verified worktree promotion postimage mismatch" []
  else
    let _ ← transitionPermit permit.permitId .applied .verifying none none
    let result := promotedResult host prepared preflight receipt backupPath
    let _ ← transitionPermit permit.permitId .verifying .committed
      (some [("committed_postimage_digest", .str (prepared.targetPostimageDigest host.sha))])
      (some result)
    return result

/-- `_promote_verified_patch` once the permit is claimed. -/
def applyVerifiedPatch (idempotencyKey : String) (permit : Permit)
    (prepared : PreparedRepoPatch) (preflight receipt : Dict) (backupPath : String) :
    Py Dict := do
  let _ ← transitionPermit permit.permitId .claimed .applying none none
  let promoted ← tryExcept [.osError, .typeError, .valueError]
    (promotePrepared idempotencyKey permit.permitId prepared)
  match promoted with
  | .error e =>
    abortWithRestoration host permit .applying
      ("verified worktree promotion rejected: " ++ e.text) []
  | .ok () =>
    let _ ← transitionPermit permit.permitId .applying .applied none none
    commitVerifiedPatch host permit prepared preflight receipt backupPath

def promoteVerifiedPatch (decision : Decision) (evaluation : EvaluationResult) (gate : Dict)
    (idempotencyKey : String) : Py Dict := do
  let permit ← issuePermit host decision evaluation gate idempotencyKey 300 none none
  let admitted ← pure? (attachHsaiExecutionContext host decision gate (some permit))
  let digest ← fileDigest host permit.targetPath
  raiseIf (digest != permit.targetPreimageDigest)
    "repo patch source preimage changed before durable preparation"
  let backupPath := backupPathFor host permit.permitId
  writeImmutableBackup backupPath prepared.originalBytes
  let _ ← transitionPermit permit.permitId .issued .prepared
    (some
      [("backup_path", .str backupPath),
       ("repo_path", .str prepared.sourceRepo),
       ("target_path", .str permit.targetPath)]) none
  let consumed ← tryExcept restorationErrors
    (consumePermit host permit admitted idempotencyKey decision.parameters)
  match consumed with
  | .error e =>
    abortWithRestoration host permit .prepared
      ("repo patch permit consumption rejected: " ++ e.text) []
  | .ok receipt =>
    applyVerifiedPatch host idempotencyKey permit prepared preflight receipt backupPath

def currentHsaiRequest (order : AuthorityOrder) (gate receipt : Dict) :
    Except PyError Dict :=
  match gate.get? "request" with
  | some (.obj request) => do
    rejectIf (!Json.pyEqOpt (Dict.get? request "schema_version")
        (some (.str "mesh.hsai_admission_request.v2")))
      ⟨.valueError, "authority execute requires an HSAI v2 request bound to preflight evidence"⟩
    host.bridge.buildAdmissionRequestV2 order.decision order.evaluation (.obj receipt)
      (textOrEmpty request "created_at")
  | _ => valueError "authority HSAI gate request is missing"

/-- `d.get(key) is True`. -/
def isTrueAt (d : Dict) (key : String) : Bool := d.get? key = some (.bool true)

def adapterUnavailable : Bool :=
  match gate.get? "reason_codes" with
  | some (.arr reasons) => reasons.any fun
      | .str reason => "hsai_unavailable:".toList.isPrefixOf reason.toList
      | _ => false
  | _ => false

/-- `dict(value or {})`: a mapping, nothing for a false value, or the pairs of
a list. -/
def dictOrEmpty (value : Json) : Except PyError Dict :=
  match value with
  | .obj members => .ok members
  | .arr items => items.foldlM (fun d item => match item with
      | .arr [.str key, value] => .ok (Dict.set d key value)
      | _ => .error ⟨.typeError, "cannot convert dictionary update sequence"⟩) []
  | value =>
    if truthy value then .error ⟨.typeError, "object is not iterable"⟩ else .ok []

def settledDecision : Except PyError Dict := do
  let decision ← dictOrEmpty (valueAt gate "decision")
  return (decision.pop "created_at").pop "decision_digest"

/-- The members in which the submitted gate and the current one have to
agree. -/
def comparedGateFields : List String :=
  ["allowed", "authority_eligible", "request", "request_digest", "candidate_digest",
   "reason_codes"]

def reviewGate (authorityGate : Dict) : Except PyError (Option String) :=
  if adapterUnavailable authorityGate then .ok (some "hsai_authority_adapter_unavailable")
  else if !isTrueAt gate "allowed" || !isTrueAt gate "authority_eligible" then
    .ok (some "admission_rejected")
  else if comparedGateFields.any fun field =>
      !Json.pyEqOpt (gate.get? field) (authorityGate.get? field) then
    .ok (some "hsai_authority_gate_mismatch")
  else do
    let submitted ← settledDecision gate
    let current ← settledDecision authorityGate
    if !Json.pyEq (.obj submitted) (.obj current) then
      return some "hsai_authority_gate_mismatch"
    else if !isTrueAt authorityGate "allowed" || !isTrueAt authorityGate "authority_eligible" then
      return some "admission_rejected"
    else return none

def preflightedResult (receipt : Dict) : Dict :=
  [("status", .str "preflighted"),
   ("preflight_receipt", .obj receipt),
   ("external_refs", .obj []),
   ("retryable", .bool false)]

def preflightDispatched (order : AuthorityOrder)
    (lease : Lease) (dispatched : AuthorityRecord) : Py AuthorityResponse := do
  let ran ← tryExcept restorationErrors (runPreflight host config order)
  match ran with
  | .error _ =>
    completeLifecycleRejection host config lease dispatched "preflight_rejected" .rejected
  | .ok receipt =>
    completeLifecycleResponse host config lease dispatched .completed
      (preflightedResult receipt) none .succeeded

/-- How the `with` block of an execution is left: by a rejection, or with the
result of the promotion. -/
inductive PromotionOutcome where
  | rejected (response : AuthorityResponse)
  | executed (result : Dict)

/-- The body of the `with` block of an execution. -/
def promoteUnchanged (order : AuthorityOrder)
    (lease : Lease) (dispatched : AuthorityRecord) (authorityGate receipt : Dict)
    (prepared : PreparedRepoPatch) : Py PromotionOutcome :=
  let current := preflightReceiptPayload host.sha prepared
  if !Json.pyEq (.obj current) (.obj receipt) then do
    let response ← completeLifecycleRejection host config lease dispatched
      "preflight_drift_rejected" .rejected
    return .rejected response
  else do
    let result ← promoteVerifiedPatch host prepared current order.decision order.evaluation
      authorityGate order.idempotencyKey
    return .executed result

def executePrepared (order : AuthorityOrder)
    (lease : Lease) (dispatched : AuthorityRecord) (authorityGate receipt : Dict) :
    Py AuthorityResponse := do
  let prepared ← tryExcept restorationErrors (prepareVerifiedPatch host config order)
  match prepared with
  | .error _ =>
    completeLifecycleRejection host config lease dispatched "preflight_drift_rejected" .rejected
  | .ok prepared =>
    let outcome ← withPrepared prepared
      (promoteUnchanged host config order lease dispatched authorityGate receipt prepared)
    match outcome with
    | .rejected response => return response
    | .executed result =>
      completeLifecycleResponse host config lease dispatched .completed result none
        (outcomeFor result)

def executeDispatched (order : AuthorityOrder)
    (lease : Lease) (dispatched : AuthorityRecord) (authorityGate receipt : Dict) :
    Py AuthorityResponse := do
  let terminal ← onLedger (.terminalResultForReplay order.decision order.evaluation authorityGate
    order.idempotencyKey)
  match terminal with
  | some result =>
    completeLifecycleResponse host config lease dispatched .completed result none
      (outcomeFor result)
  | none => executePrepared host config order lease dispatched authorityGate receipt

def handleLeasedRequest (order : AuthorityOrder)
    (lease : Lease) (record : AuthorityRecord) : Py AuthorityResponse :=
  match order.operation with
  | .preflight => do
    let dispatched ← markLifecycleDispatched record lease.leaseId
    preflightDispatched host config order lease dispatched
  | .execute gate receipt => do
    let current ← pure? (currentHsaiRequest host order gate receipt)
    if !config.adapterReady then
      completeLifecycleRejection host config lease record "hsai_authority_adapter_unavailable"
        .rejected
    else
      let authorityGate ← consult (.admission current)
      pure? (host.permits.validateBridgeGate authorityGate order.decision order.evaluation)
      let review ← pure? (reviewGate gate authorityGate)
      match review with
      | some code => completeLifecycleRejection host config lease record code .rejected
      | none =>
        let dispatched ← markLifecycleDispatched record lease.leaseId
        executeDispatched host config order lease dispatched authorityGate receipt

/-- The classes that `handle_request` answers as a refused policy. -/
def policyErrors : List ErrorClass :=
  [.keyError, .osError, .schemaValidationError, .typeError, .valueError]

/-- How the first part of the lifecycle ends: with a response for a record that
is dispatched or completed already, or with a lease. -/
inductive Opened where
  | answered (response : AuthorityResponse)
  | leased (record : AuthorityRecord) (leaseId : String)

def AuthorityOrder.caller : Caller :=
  ⟨order.request, order.peerUid, order.peerGid⟩

/-- The `try` of `handle_request` around the authority store. -/
def openLifecycle (order : AuthorityOrder) :
    Py Opened := do
  let record ← issueAuthorityLifecycle host config order
  match record.state with
  | .terminal =>
    let response ← signedTerminalReplay host config order.caller record
    return .answered response
  | .dispatched =>
    let completed ← finishDispatched order record
    let response ← signedTerminalReplay host config order.caller completed
    return .answered response
  | .issued | .leased =>
    let token ← tokenHex
    let leaseId := "authority_lease_" ++ token
    let leased ← leaseForDispatch record leaseId
    return .leased leased leaseId

/-- The handlers of `handle_request` around a leased request. -/
def closeLeased (record : AuthorityRecord) (e : PyError) : Py AuthorityResponse :=
  if e.caughtBy policyErrors then
    completeLifecycleRejection host config lease record "authority_policy_rejected" .rejected
  else
    completeLifecycleRejection host config lease record "authority_internal_failure" .failed

/-- `handle_request` for an accepted request. -/
def serveOrder (order : AuthorityOrder) :
    Py AuthorityResponse := do
  let opened ← tryExcept lifecycleErrors (openLifecycle host config order)
  match opened with
  | .error _ => signedRejection host config order.caller "authority_lifecycle_conflict"
  | .ok (.answered response) => return response
  | .ok (.leased record leaseId) =>
    let lease : Lease := ⟨order.caller, order.clientKeyId, leaseId⟩
    tryCatch (handleLeasedRequest host config order lease record)
      (closeLeased host config lease record)

/-- `handle_request` inside its outer `try`. -/
def serveRequest (request : Dict)
    (peerUid peerGid : Int) : Py AuthorityResponse := do
  let accepted ← acceptRequest config request peerUid peerGid
  match accepted with
  | .error code => signedRejection host config ⟨request, peerUid, peerGid⟩ code
  | .ok order => serveOrder host config order

def handleRequest (request : Dict)
    (peerUid peerGid : Int) : Py AuthorityResponse :=
  let caller : Caller := ⟨request, peerUid, peerGid⟩
  if !config.allowedUids.contains peerUid then
    signedRejection host config caller "peer_identity_rejected"
  else
    tryCatch (serveRequest host config request peerUid peerGid) fun e =>
      if e.caughtBy policyErrors then
        signedRejection host config caller "authority_policy_rejected"
      else
        signedRejection host config caller "authority_internal_failure"

end OrbitalMesh
