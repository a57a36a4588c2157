import OrbitalMesh.Runtime

/-!
# The repo-patch permit ledger

`RepoPatchPermitStore` (`shared/mesh_runtime/repo_patch_permits.py`) keeps one
JSON ledger: the permits with their state machine, the consumed nonces, an
idempotency map, the roots fenced by a failed recovery, and the tip of a hash chain
through all issued permits.  This file models the sections that run under the
ledger's lock; a section that raises leaves the ledger as it was.
-/

namespace OrbitalMesh

/-- `REPO_PATCH_EXECUTION_PERMIT_VERSION`. -/
def permitVersion : String := "mesh.repo_patch_execution_permit.v1"

/-- `REPO_PATCH_EXECUTION_TRANSACTION_VERSION`. -/
def transactionVersion : String := "mesh.repo_patch_execution_transaction.v1"

inductive PermitState where
  | issued
  | prepared
  | claimed
  | applying
  | applied
  | verifying
  | committed
  | aborted
  | recoveryRequired
deriving DecidableEq

namespace PermitState

def text : PermitState → String
  | .issued => "issued"
  | .prepared => "prepared"
  | .claimed => "claimed"
  | .applying => "applying"
  | .applied => "applied"
  | .verifying => "verifying"
  | .committed => "committed"
  | .aborted => "aborted"
  | .recoveryRequired => "recovery_required"

/-- Membership in `TERMINAL_STATES`. -/
def isTerminal : PermitState → Bool
  | .committed | .aborted | .recoveryRequired => true
  | _ => false

/-- Membership in `MUTATION_STATES`. -/
def isMutation : PermitState → Bool
  | .prepared | .claimed | .applying | .applied | .verifying => true
  | _ => false

def allowedTransitions : PermitState → List PermitState
  | .issued => [.prepared]
  | .prepared => [.claimed, .aborted, .recoveryRequired]
  | .claimed => [.applying, .aborted, .recoveryRequired]
  | .applying => [.applied, .aborted, .recoveryRequired]
  | .applied => [.verifying, .aborted, .recoveryRequired]
  | .verifying => [.committed, .aborted, .recoveryRequired]
  | .committed | .aborted | .recoveryRequired => []

end PermitState

/-- A decision of the orchestrator: its id and its execution plan. -/
structure Decision where
  decisionId : String
  system : String
  action : String
  parameters : Dict

structure EvaluationResult where
  evaluationId : String
  decisionId : String
  passed : Bool
  finalRecommendation : String
  stageResults : Json
  blockingReasons : List String
  reviewRoute : Option String

def EvaluationResult.asDict (e : EvaluationResult) : Dict :=
  [("evaluation_id", .str e.evaluationId),
   ("decision_id", .str e.decisionId),
   ("passed", .bool e.passed),
   ("final_recommendation", .str e.finalRecommendation),
   ("stage_results", e.stageResults),
   ("blocking_reasons", .arr (e.blockingReasons.map Json.str)),
   ("review_route", (e.reviewRoute.map Json.str).getD .null)]

/-- The fields of a permit that enter its ledger entry. -/
structure PermitBody where
  schemaVersion : String
  transactionVersion : String
  permitId : String
  authorityScope : String
  issuer : String
  executorAudience : String
  tenant : Json
  meshRunId : Json
  meshActionId : Json
  actionKind : Json
  authorityNonce : String
  idempotencyKey : String
  hsaiRequestDigest : Json
  hsaiDecisionDigest : Json
  candidatePayloadDigest : Json
  actionProposalDigest : Json
  evidencePacketDigest : Json
  meshPolicyId : Json
  policySnapshotDigest : String
  canonicalActuationPayloadDigest : String
  repoPath : String
  targetPath : String
  targetPreimageDigest : String
  targetPostimageDigest : String
  requestedClaims : Json
  acceptedClaims : Json
  explicitNonclaims : Json
  enforcedNonclaims : Json
  expectedLedgerTipBefore : String
  issuedAt : Instant
  notBefore : Instant
  expiresAt : Instant
deriving DecidableEq, Inhabited

/-- A permit: its body, its place in the ledger chain, its digest and proof. -/
structure Permit extends PermitBody where
  authorityEntryDigest : String
  ledgerTipAfter : String
  permitDigest : String
  authorizationProof : Json
deriving DecidableEq, Inhabited

def PermitBody.toDict (p : PermitBody) : Dict :=
  [("schema_version", .str p.schemaVersion),
   ("transaction_version", .str p.transactionVersion),
   ("permit_id", .str p.permitId),
   ("authority_scope", .str p.authorityScope),
   ("issuer", .str p.issuer),
   ("executor_audience", .str p.executorAudience),
   ("tenant", p.tenant),
   ("mesh_run_id", p.meshRunId),
   ("mesh_action_id", p.meshActionId),
   ("action_kind", p.actionKind),
   ("authority_nonce", .str p.authorityNonce),
   ("idempotency_key", .str p.idempotencyKey),
   ("hsai_request_digest", p.hsaiRequestDigest),
   ("hsai_decision_digest", p.hsaiDecisionDigest),
   ("candidate_payload_digest", p.candidatePayloadDigest),
   ("action_proposal_digest", p.actionProposalDigest),
   ("evidence_packet_digest", p.evidencePacketDigest),
   ("mesh_policy_id", p.meshPolicyId),
   ("policy_snapshot_digest", .str p.policySnapshotDigest),
   ("canonical_actuation_payload_digest", .str p.canonicalActuationPayloadDigest),
   ("repo_path", .str p.repoPath),
   ("target_path", .str p.targetPath),
   ("target_preimage_digest", .str p.targetPreimageDigest),
   ("target_postimage_digest", .str p.targetPostimageDigest),
   ("requested_claims", p.requestedClaims),
   ("accepted_claims", p.acceptedClaims),
   ("explicit_nonclaims", p.explicitNonclaims),
   ("enforced_nonclaims", p.enforcedNonclaims),
   ("expected_ledger_tip_before", .str p.expectedLedgerTipBefore),
   ("issued_at", .str (formatTime p.issuedAt)),
   ("not_before", .str (formatTime p.notBefore)),
   ("expires_at", .str (formatTime p.expiresAt))]

/-- The permit without its digest and its proof, which `_permit_digest` hashes. -/
def Permit.digestedDict (p : Permit) : Dict :=
  p.toPermitBody.toDict ++
    [("authority_entry_digest", .str p.authorityEntryDigest),
     ("ledger_tip_after", .str p.ledgerTipAfter)]

def Permit.signedPayload (p : Permit) : Dict :=
  p.digestedDict ++ [("permit_digest", .str p.permitDigest)]

def Permit.toDict (p : Permit) : Dict :=
  p.signedPayload ++ [("authorization_proof", p.authorizationProof)]

/-- One entry of `state_history`. -/
structure HistoryEntry where
  state : PermitState
  recordedAt : Instant

structure PermitRecord where
  permit : Permit
  state : PermitState
  stateHistory : List HistoryEntry
  transaction : Option Dict
  terminalResult : Option Dict

/-- An entry of `fenced_roots`. -/
structure RootFence where
  permitId : String
  reason : String
  fencedAt : Instant

/-- The ledger.  An absent table is an empty one, and `tip` is absent until
the first permit is issued. -/
structure Ledger where
  permits : Table PermitRecord
  consumedNonces : Table String
  idempotency : Table String
  fencedRoots : Table RootFence
  tip : Option String

def Ledger.empty : Ledger := ⟨∅, ∅, ∅, ∅, none⟩

variable (ledger : Ledger)

/-- `str(ledger.get("tip") or GENESIS_LEDGER_TIP)`. -/
def Ledger.currentTip : String :=
  match ledger.tip with
  | none => genesisDigest
  | some tip => if tip = "" then genesisDigest else tip

/-- The configuration of a permit store, with the checks it takes from other modules. -/
structure PermitAuthority where
  signingKey : String
  signingKeyId : String
  issuer : String
  executorAudience : String
  validateBridgeGate : Dict → Decision → EvaluationResult → Except PyError Unit
  validatePayload : Dict → Except PyError Unit
  validateSemantics : Dict → Except PyError Unit
  buildProof : Dict → Json
  verifyProof : Dict → Json → Bool

def requireAuthorityConfiguration (authority : PermitAuthority) : Except PyError Unit := do
  rejectIf (authority.signingKey == "")
    ⟨.valueError, "repo patch permit signing key is required for mutable authority"⟩
  rejectIf (authority.signingKeyId == "")
    ⟨.valueError, "repo patch permit signing key id is required"⟩
  rejectIf (authority.issuer == "") ⟨.valueError, "repo patch permit issuer is required"⟩
  rejectIf (authority.executorAudience == "")
    ⟨.valueError, "repo patch permit executor audience is required"⟩

/-- What `issue` has computed before it takes the lock, with the caller's
permit id and nonce and the random ones drawn in their place. -/
structure IssueInput where
  idempotencyKey : String
  parameters : Dict
  gate : Dict
  evaluation : EvaluationResult
  repoPath : String
  targetPath : String
  targetPreimageDigest : String
  targetPostimageDigest : String
  now : Instant
  expiresAt : Instant
  permitId : Option String
  authorityNonce : Option String
  randomPermitId : String
  randomNonce : String

/-- `d[key]`. -/
def requireKey (d : Dict) (key : String) : Except PyError Json :=
  match d.get? key with
  | some value => .ok value
  | none => .error ⟨.keyError, pyRepr key⟩

/-- `dict(d[key])`. -/
def requireDict (d : Dict) (key : String) : Except PyError Dict := do
  let value ← requireKey d key
  match value with
  | .obj members => return members
  | _ => .error ⟨.typeError, pyRepr key ++ " is not a mapping"⟩

/-- `list(d.get(key) or [])`. -/
def listOrEmpty (d : Dict) (key : String) : Json :=
  match d.get? key with
  | some (.arr items) => .arr items
  | _ => .arr []

/-- `caller or drawn`. -/
def callerOr (caller : Option String) (drawn : String) : String :=
  match caller with
  | some value => if value = "" then drawn else value
  | none => drawn

variable (sha : Sha256)

/-- The permit body that `issue` writes. -/
def permitBody (authority : PermitAuthority) (input : IssueInput)
    (tipBefore permitId nonce : String) : Except PyError PermitBody := do
  let request ← requireDict input.gate "request"
  let admission ← requireDict input.gate "decision"
  let actor ← requireDict request "actor_ref"
  let tenant ← requireKey actor "team_id"
  let meshRunId ← requireKey request "mesh_run_id"
  let meshActionId ← requireKey request "mesh_action_id"
  let actionKind ← requireKey request "action_kind"
  let hsaiRequestDigest ← requireKey input.gate "request_digest"
  let hsaiDecisionDigest ← requireKey input.gate "decision_digest"
  let candidatePayloadDigest ← requireKey input.gate "candidate_digest"
  let actionProposalDigest ← requireKey request "action_proposal_digest"
  let evidencePacketDigest ← requireKey request "evidence_packet_digest"
  let meshPolicyId ← requireKey request "mesh_policy_id"
  let requestedClaims ← requireKey request "requested_claims"
  let explicitNonclaims ← requireKey request "explicit_nonclaims"
  return {
    schemaVersion := permitVersion
    transactionVersion := transactionVersion
    permitId
    authorityScope := "local_disposable_repo_patch_only"
    issuer := authority.issuer
    executorAudience := authority.executorAudience
    tenant
    meshRunId
    meshActionId
    actionKind
    authorityNonce := nonce
    idempotencyKey := input.idempotencyKey
    hsaiRequestDigest
    hsaiDecisionDigest
    candidatePayloadDigest
    actionProposalDigest
    evidencePacketDigest
    meshPolicyId
    policySnapshotDigest := canonicalDigest sha (.obj input.evaluation.asDict)
    canonicalActuationPayloadDigest := canonicalDigest sha (.obj input.parameters)
    repoPath := input.repoPath
    targetPath := input.targetPath
    targetPreimageDigest := input.targetPreimageDigest
    targetPostimageDigest := input.targetPostimageDigest
    requestedClaims
    acceptedClaims := listOrEmpty admission "accepted_claims"
    explicitNonclaims
    enforcedNonclaims := listOrEmpty admission "enforced_nonclaims"
    expectedLedgerTipBefore := tipBefore
    issuedAt := input.now
    notBefore := input.now
    expiresAt := input.expiresAt }

/-- The derived fields that `issue` adds to the body. -/
def sealPermit (authority : PermitAuthority) (body : PermitBody) : Permit :=
  let tipBefore := body.expectedLedgerTipBefore
  let entryDigest := canonicalDigest sha
    (.obj [("tip_before", .str tipBefore), ("permit", .obj body.toDict)])
  let tipAfter := canonicalDigest sha
    (.obj [("tip_before", .str tipBefore), ("entry_digest", .str entryDigest)])
  let chained : Permit :=
    { toPermitBody := body
      authorityEntryDigest := entryDigest
      ledgerTipAfter := tipAfter
      permitDigest := ""
      authorizationProof := .null }
  let digested := { chained with permitDigest := canonicalDigest sha (.obj chained.digestedDict) }
  { digested with authorizationProof := authority.buildProof digested.signedPayload }

/-- The two ways in which `issue` returns. -/
inductive IssueOutcome where
  | existing (permit : Permit)
  | issued (permit : Permit)

/-- The permit that `issue` returns. -/
def IssueOutcome.permit : IssueOutcome → Permit
  | .existing permit => permit
  | .issued permit => permit

/-- The locked section of `issue`. -/
def issueSection (authority : PermitAuthority) (ledger : Ledger)
    (input : IssueInput) : Except PyError (IssueOutcome × Ledger) := do
  rejectIf (ledger.fencedRoots[input.repoPath]?).isSome
    ⟨.valueError, "repo patch root is fenced pending authority recovery"⟩
  let tipBefore := ledger.currentTip
  match ledger.idempotency[input.idempotencyKey]? with
  | some existingId =>
    match ledger.permits[existingId]? with
    | none => valueError "repo patch idempotency entry is corrupt"
    | some record =>
      rejectIf (decide (record.permit.canonicalActuationPayloadDigest ≠
          canonicalDigest sha (.obj input.parameters)))
        ⟨.valueError, "repo patch idempotency binding mismatch"⟩
      return (.existing record.permit, ledger)
  | none =>
    let permitId := callerOr input.permitId ("permit_" ++ input.randomPermitId)
    rejectIf (ledger.permits[permitId]?).isSome
      ⟨.valueError, "repo patch permit id already exists"⟩
    let nonce := callerOr input.authorityNonce input.randomNonce
    rejectIf (ledger.consumedNonces[nonce]?).isSome
      ⟨.valueError, "repo patch permit nonce already exists"⟩
    let body ← permitBody sha authority input tipBefore permitId nonce
    let permit := sealPermit sha authority body
    authority.validatePayload permit.toDict
    authority.validateSemantics permit.toDict
    return (.issued permit,
      { ledger with
        permits := ledger.permits.insert permitId
          { permit
            state := .issued
            stateHistory := [⟨.issued, input.now⟩]
            transaction := none
            terminalResult := none }
        idempotency := ledger.idempotency.insert input.idempotencyKey permitId
        tip := some permit.ledgerTipAfter })

def transitionRecord (record : PermitRecord) (expectedState newState : PermitState)
    (now : Instant) (details terminalResult : Option Dict) : Except PyError PermitRecord := do
  rejectIf (decide (record.state ≠ expectedState))
    ⟨.valueError, "repo patch authority state mismatch: expected " ++ expectedState.text ++
      ", got " ++ record.state.text⟩
  return { record with
    state := newState
    stateHistory := record.stateHistory ++ [⟨newState, now⟩]
    transaction :=
      match details with
      | some (first :: rest) => some ((record.transaction.getD []).update (first :: rest))
      | _ => record.transaction
    terminalResult := terminalResult <|> record.terminalResult }

/-- `records.get(permit_id)` in the methods that insist on a `permits` table:
an untouched ledger has none. -/
def presentRecord (permitId : String) : Except PyError PermitRecord := do
  rejectIf ledger.permits.isEmpty
    ⟨.valueError, "repo patch authority ledger is missing permits"⟩
  match ledger.permits[permitId]? with
  | some record => return record
  | none => valueError "repo patch permit is not present in the authority ledger"

/-- The locked section of `consume`. -/
def consumeSection (permit : Permit) (now : Instant) :
    Except PyError Ledger := do
  let record ← presentRecord ledger permit.permitId
  rejectIf (decide (record.permit ≠ permit))
    ⟨.valueError, "repo patch permit is not present in the authority ledger"⟩
  rejectIf (decide (record.state ≠ .prepared))
    ⟨.valueError, "repo patch permit is not prepared or was already claimed"⟩
  rejectIf (ledger.consumedNonces[permit.authorityNonce]?).isSome
    ⟨.valueError, "repo patch authority nonce already consumed"⟩
  let updated ← transitionRecord record .prepared .claimed now none none
  return { ledger with
    permits := ledger.permits.insert permit.permitId updated
    consumedNonces := ledger.consumedNonces.insert permit.authorityNonce permit.permitId }

/-- `record_transition`: the checks before the lock and the locked section. -/
def recordTransition (permitId : String)
    (expectedState newState : PermitState) (details terminalResult : Option Dict)
    (now : Instant) : Except PyError (PermitRecord × Ledger) := do
  rejectIf (!expectedState.allowedTransitions.contains newState)
    ⟨.valueError, "invalid repo patch authority transition: " ++ expectedState.text ++ "->" ++
      newState.text⟩
  rejectIf (newState.isTerminal && terminalResult.isNone)
    ⟨.valueError, "terminal repo patch transition requires a stored result"⟩
  rejectIf (!newState.isTerminal && terminalResult.isSome)
    ⟨.valueError, "non-terminal repo patch transition cannot store a terminal result"⟩
  let record ← presentRecord ledger permitId
  let updated ← transitionRecord record expectedState newState now details terminalResult
  return (updated, { ledger with permits := ledger.permits.insert permitId updated })

/-- The first locked section of `abort_with_restoration`. -/
def restorationDetails (permitId : String) (expectedState : PermitState) :
    Except PyError (Option Dict) :=
  match ledger.permits[permitId]? with
  | some record =>
    if record.state = expectedState then .ok record.transaction
    else valueError "repo patch authority restoration state changed concurrently"
  | none => valueError "repo patch authority restoration state changed concurrently"

/-- The terminal result that `_fence_recovery` stores. -/
def fencedResult (permitId repoPath reason : String) : Dict :=
  [("status", .str "failed"),
   ("external_refs", .obj [("permit_id", .str permitId), ("root_fenced", .bool (repoPath != ""))]),
   ("failure", .obj [("reason", .str ("repo patch recovery required: " ++ reason))]),
   ("retryable", .bool false)]

/-- The locked section of `_fence_recovery`. -/
def fenceSection (permitId : String) (expectedState : PermitState)
    (repoPath reason : String) (now : Instant) : Except PyError Ledger := do
  match ledger.permits[permitId]? with
  | none => valueError "repo patch authority recovery state changed concurrently"
  | some record =>
    rejectIf (decide (record.state ≠ expectedState))
      ⟨.valueError, "repo patch authority recovery state changed concurrently"⟩
    let updated ← transitionRecord record expectedState .recoveryRequired now
      (some [("recovery_failure", .str reason)]) (some (fencedResult permitId repoPath reason))
    let permits := ledger.permits.insert permitId updated
    if repoPath = "" then
      return { ledger with permits }
    else
      return { ledger with
        permits
        fencedRoots := ledger.fencedRoots.insert repoPath ⟨permitId, reason, now⟩ }

/-- An incomplete record, as `recover_incomplete_actions` collects it. -/
structure Candidate where
  permitId : String
  record : PermitRecord
  incomplete : record.state.isMutation = true

/-- The locked section of `recover_incomplete_actions`: the records that a
crash may have left behind, by increasing permit id. -/
def recoveryCandidates : List Candidate :=
  ledger.permits.toList.filterMap fun (permitId, record) =>
    if h : record.state.isMutation = true then some ⟨permitId, record, h⟩ else none

def terminalRecord? (idempotencyKey : String) : Option PermitRecord :=
  match ledger.idempotency[idempotencyKey]? with
  | none => none
  | some permitId =>
    if permitId = "" then none
    else ledger.permits[permitId]?.filter fun record => record.state.isTerminal

def terminalResultForIdempotency (idempotencyKey : String) :
    Except PyError (Option Dict) :=
  match terminalRecord? ledger idempotencyKey with
  | none => .ok none
  | some record =>
    match record.terminalResult with
    | some result => .ok (some result)
    | none => valueError "terminal repo patch authority record is missing its result"

/-- The bindings that `terminal_result_for_replay` compares, in the order of
the source. -/
def replayBindings (decision : Decision) (evaluation : EvaluationResult)
    (gate request : Dict) (idempotencyKey : String) (parameters : Dict) :
    List (String × Option Json) :=
  [("mesh_action_id", some (.str decision.decisionId)),
   ("mesh_run_id", request.get? "mesh_run_id"),
   ("idempotency_key", some (.str idempotencyKey)),
   ("hsai_request_digest", gate.get? "request_digest"),
   ("hsai_decision_digest", gate.get? "decision_digest"),
   ("candidate_payload_digest", gate.get? "candidate_digest"),
   ("action_proposal_digest", request.get? "action_proposal_digest"),
   ("evidence_packet_digest", request.get? "evidence_packet_digest"),
   ("mesh_policy_id", request.get? "mesh_policy_id"),
   ("policy_snapshot_digest", some (.str (canonicalDigest sha (.obj evaluation.asDict)))),
   ("canonical_actuation_payload_digest", some (.str (canonicalDigest sha (.obj parameters))))]

def hsaiExecutionContextKey : String := "_mesh_hsai_admission_context"

def canonicalActuationParameters (parameters : Dict) : Dict :=
  parameters.pop hsaiExecutionContextKey

def terminalResultForReplay (ledger : Ledger) (decision : Decision)
    (evaluation : EvaluationResult) (gate : Dict) (idempotencyKey : String) :
    Except PyError (Option Dict) := do
  rejectIf (decide (idempotencyKey ≠ decision.decisionId ++ ":" ++ decision.action))
    ⟨.valueError, "repo patch terminal replay idempotency mismatch"⟩
  let parameters := canonicalActuationParameters decision.parameters
  match gate.get? "request" with
  | some (.obj request) =>
    match terminalRecord? ledger idempotencyKey with
    | none => return none
    | some record =>
      match record.terminalResult with
      | none => valueError "terminal repo patch authority record is incomplete"
      | some result =>
        let permit := record.permit.toDict
        let mismatched := (replayBindings sha decision evaluation gate request
          idempotencyKey parameters).filter fun binding =>
            !Json.pyEqOpt (permit.get? binding.1) binding.2
        rejectIf (!mismatched.isEmpty)
          ⟨.valueError, "repo patch terminal replay binding mismatch: [" ++
            ", ".intercalate ((mismatched.map (·.1)).mergeSort Json.keyLe |>.map pyRepr) ++
            "]"⟩
        return some result
  | _ => valueError "repo patch terminal replay gate request is missing"

/-- A locked section of the store, with the clock reading made before it. -/
inductive LedgerSection where
  | issue (input : IssueInput)
  | consume (permit : Permit) (now : Instant)
  | recordTransition (permitId : String) (expectedState newState : PermitState)
      (details terminalResult : Option Dict) (now : Instant)
  | restorationDetails (permitId : String) (expectedState : PermitState)
  | fenceRecovery (permitId : String) (expectedState : PermitState)
      (repoPath reason : String) (now : Instant)
  | incompleteActions
  | terminalResultForIdempotency (idempotencyKey : String)
  | terminalResultForReplay (decision : Decision) (evaluation : EvaluationResult)
      (gate : Dict) (idempotencyKey : String)

abbrev LedgerSection.Value : LedgerSection → Type
  | .issue _ => IssueOutcome
  | .consume _ _ => Unit
  | .recordTransition _ _ _ _ _ _ => PermitRecord
  | .restorationDetails _ _ => Option Dict
  | .fenceRecovery _ _ _ _ _ => Unit
  | .incompleteActions => List Candidate
  | .terminalResultForIdempotency _ => Option Dict
  | .terminalResultForReplay _ _ _ _ => Option Dict

def ledgerCall (authority : PermitAuthority) (ledger : Ledger) :
    (s : LedgerSection) → Except PyError (s.Value × Ledger)
  | .issue input => issueSection sha authority ledger input
  | .consume permit now => (consumeSection ledger permit now).map fun ledger' => ((), ledger')
  | .recordTransition permitId expectedState newState details terminalResult now =>
    recordTransition ledger permitId expectedState newState details terminalResult now
  | .restorationDetails permitId expectedState =>
    (restorationDetails ledger permitId expectedState).map fun details => (details, ledger)
  | .fenceRecovery permitId expectedState repoPath reason now =>
    (fenceSection ledger permitId expectedState repoPath reason now).map
      fun ledger' => ((), ledger')
  | .incompleteActions => .ok (recoveryCandidates ledger, ledger)
  | .terminalResultForIdempotency idempotencyKey =>
    (terminalResultForIdempotency ledger idempotencyKey).map fun result => (result, ledger)
  | .terminalResultForReplay decision evaluation gate idempotencyKey =>
    (terminalResultForReplay sha ledger decision evaluation gate idempotencyKey).map
      fun result => (result, ledger)

end OrbitalMesh
