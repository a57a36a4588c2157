import OrbitalMesh.Permit.Store

/-!
# The patch executor

`RepoPatchAdapter.execute_patch` (`services/actuators/repo_patch.py`): the
permit attached to a decision is looked at, the target is bound, a backup is
written, the permit is taken through its states, the target is replaced and the
allowlisted test commands are run.  After the permit has been claimed, whatever
goes wrong is answered by restoring the preimage.
-/

namespace OrbitalMesh

def numberAt (text : List Char) (start count : Nat) : Nat :=
  ((text.drop start).take count).foldl (fun n c => 10 * n + (c.toNat - 48)) 0

/-- `_parse_time`, on a text that `_format_time` has written. -/
def parseTime (value : String) : Instant :=
  let text := value.toList
  let month := numberAt text 5 2
  let year : Int := numberAt text 0 4 - (if month ≤ 2 then 1 else 0)
  let era := year.fdiv 400
  let yearOfEra := (year - era * 400).toNat
  let dayOfYear := (153 * ((month + 9) % 12) + 2) / 5 + numberAt text 8 2 - 1
  let dayOfEra := yearOfEra * 365 + yearOfEra / 4 - yearOfEra / 100 + dayOfYear
  let days : Int := era * 146097 + dayOfEra - 719468
  let seconds := numberAt text 11 2 * 3600 + numberAt text 14 2 * 60 + numberAt text 17 2
  let micros := if text[19]? = some '.' then numberAt text 20 6 else 0
  (days * 86400 + seconds) * 1000000 + micros

example : parseTime "2026-07-12T16:00:00Z" = 1783872000000000 := by decide

def textAt (d : Dict) (key : String) : String :=
  match d.get? key with
  | some (.str text) => text
  | _ => ""

def valueAt (d : Dict) (key : String) : Json := (d.get? key).getD .null

def permitFields (d : Dict) : Permit where
  schemaVersion := textAt d "schema_version"
  transactionVersion := textAt d "transaction_version"
  permitId := textAt d "permit_id"
  authorityScope := textAt d "authority_scope"
  issuer := textAt d "issuer"
  executorAudience := textAt d "executor_audience"
  tenant := valueAt d "tenant"
  meshRunId := valueAt d "mesh_run_id"
  meshActionId := valueAt d "mesh_action_id"
  actionKind := valueAt d "action_kind"
  authorityNonce := textAt d "authority_nonce"
  idempotencyKey := textAt d "idempotency_key"
  hsaiRequestDigest := valueAt d "hsai_request_digest"
  hsaiDecisionDigest := valueAt d "hsai_decision_digest"
  candidatePayloadDigest := valueAt d "candidate_payload_digest"
  actionProposalDigest := valueAt d "action_proposal_digest"
  evidencePacketDigest := valueAt d "evidence_packet_digest"
  meshPolicyId := valueAt d "mesh_policy_id"
  policySnapshotDigest := textAt d "policy_snapshot_digest"
  canonicalActuationPayloadDigest := textAt d "canonical_actuation_payload_digest"
  repoPath := textAt d "repo_path"
  targetPath := textAt d "target_path"
  targetPreimageDigest := textAt d "target_preimage_digest"
  targetPostimageDigest := textAt d "target_postimage_digest"
  requestedClaims := valueAt d "requested_claims"
  acceptedClaims := valueAt d "accepted_claims"
  explicitNonclaims := valueAt d "explicit_nonclaims"
  enforcedNonclaims := valueAt d "enforced_nonclaims"
  expectedLedgerTipBefore := textAt d "expected_ledger_tip_before"
  issuedAt := parseTime (textAt d "issued_at")
  notBefore := parseTime (textAt d "not_before")
  expiresAt := parseTime (textAt d "expires_at")
  authorityEntryDigest := textAt d "authority_entry_digest"
  ledgerTipAfter := textAt d "ledger_tip_after"
  permitDigest := textAt d "permit_digest"
  authorizationProof := valueAt d "authorization_proof"

/-- The permit that a mapping spells.  A mapping that lacks a field, has one
too many, or has one of another type spells none. -/
def permitOfDict? (d : Dict) : Option Permit :=
  if Json.pyEq (.obj (permitFields d).toDict) (.obj d) then some (permitFields d) else none

def hsaiExecutionContextVersion : String := "mesh.hsai_execution_context.v1"

variable (host : Host) (decision : Decision)

def attachHsaiExecutionContext (gate : Dict)
    (permit : Option Permit) : Except PyError Decision := do
  host.bridge.validateGate gate decision
  let request ← requireKey gate "request"
  let admission ← requireKey gate "decision"
  let requestDigest ← requireKey gate "request_digest"
  let decisionDigest ← requireKey gate "decision_digest"
  let candidateDigest ← requireKey gate "candidate_digest"
  let context : Dict :=
    [("schema_version", .str hsaiExecutionContextVersion),
     ("request", request),
     ("decision", admission),
     ("request_digest", requestDigest),
     ("decision_digest", decisionDigest),
     ("candidate_digest", candidateDigest)]
  let attached ← match permit with
    | none => pure context
    | some permit => do
      host.permits.validatePayload permit.toDict
      pure (context.set "execution_permit" (.obj permit.toDict))
  return { decision with
    parameters := (canonicalActuationParameters decision.parameters).set
      hsaiExecutionContextKey (.obj attached) }

/-- `context.get("execution_permit")`, when it is a mapping. -/
def executionPermit? : Option Dict :=
  match decision.parameters.get? hsaiExecutionContextKey with
  | some (.obj context) =>
    match Dict.get? context "execution_permit" with
    | some (.obj permit) => some permit
    | _ => none
  | _ => none

def authorityFailure (reason : String) : Dict :=
  [("status", .str "failed"),
   ("external_refs", .obj []),
   ("failure", .obj [("reason", .str reason)]),
   ("retryable", .bool false)]

def repoPatchAdmissionFailure :
    Except PyError (Option Dict) :=
  match host.bridge.validateExecutionContext decision with
  | .ok () => .ok none
  | .error e =>
    if e.caughtBy [.valueError] then
      .ok (some
        [("status", .str "failed"),
         ("external_refs", .obj []),
         ("failure", .obj
            [("reason", .str "hsai_admission_context_invalid"), ("detail", .str e.text)]),
         ("retryable", .bool false)])
    else .error e

/-- The tokens that `_uses_shell_syntax` looks for. -/
def shellTokens : List String := ["&&", "||", ";", "|", ">", "<", "$(", "\x60"]

variable (command : String)

def usesShellSyntax : Bool :=
  "cd ".toList.isPrefixOf (pyStrip command).toList ||
    shellTokens.any fun token => occursIn token command

/-- `tuple(shlex.split(command))`. -/
def shlexSplit : Except PyError (List String) :=
  match Text.splitWords command.toList with
  | .ok words => .ok (words.map String.ofList)
  | .error text => valueError text

variable (arguments : List String)

/-- `shlex.join(arguments)`. -/
def shlexJoin : String :=
  String.ofList (Text.joinWords (arguments.map String.toList))

/-- One round of the loop of `_authorize_test_commands`. -/
def authorizeTestCommand : Except PyError (List String) := do
  rejectIf (usesShellSyntax command)
    ⟨.valueError, "repo patch verification command contains prohibited shell syntax"⟩
  let arguments ← shlexSplit command
  rejectIf arguments.isEmpty ⟨.valueError, "empty repo patch verification command"⟩
  rejectIf (!host.allowedTestCommands.contains arguments)
    ⟨.valueError, "repo patch verification command is not explicitly allowlisted"⟩
  return arguments

def textList : Json → Option (List String)
  | .arr items => items.mapM fun
      | .str text => some text
      | _ => none
  | _ => none

def authorizeTestCommands (commands : Json) :
    Except PyError (List (List String)) :=
  match textList commands with
  | some texts => texts.mapM (authorizeTestCommand host)
  | none => valueError "repo patch verification commands must be a list of strings"

def runTestCommand (repoPath : String) : Py CompletedProcess :=
  consult (.testCommand arguments repoPath)

/-- How the loop over the test commands ends: with the result of an abort, or
with the results of all commands. -/
inductive TestOutcome where
  | aborted (result : Dict)
  | passed (results : List Json)

/-- An entry of `test_results`. -/
def testResult (completed : CompletedProcess) : Json :=
  .obj
    [("command", .str (shlexJoin arguments)),
     ("returncode", .int completed.returncode),
     ("stdout", .str (pyStrip completed.stdout)),
     ("stderr", .str (pyStrip completed.stderr))]

def runTestCommands (host : Host) (permit : Permit) (repoPath : String) :
    List (List String) → List Json → Py TestOutcome
  | [], results => return .passed results
  | arguments :: rest, results => do
    let ran ← tryExcept [.osError, .timeoutExpired, .valueError]
      (runTestCommand arguments repoPath)
    match ran with
    | .error e =>
      let result ← abortWithRestoration host permit .verifying
        ("bounded verification failed: " ++ e.text) results
      return .aborted result
    | .ok completed =>
      let extended := results ++ [testResult arguments completed]
      if completed.returncode ≠ 0 then
        let result ← abortWithRestoration host permit .verifying
          "bounded verification failed" extended
        return .aborted result
      else
        runTestCommands host permit repoPath rest extended

/-- What `execute_patch` works with once its preconditions are met. -/
structure PatchTask where
  repoPath : String
  targetPath : String
  postimage : Bytes
  commands : List (List String)
  original : Bytes
  backupPath : String

variable (permit : Permit) (task : PatchTask)

/-- The end of `execute_patch`: the target is checked once more and the permit
is committed. -/
def commitPatch (receipt : Dict)
    (results : List Json) : Py Dict := do
  let verified ← tryExcept [.osError] do
    let linked ← isSymlink task.targetPath
    if linked then
      return false
    else
      let digest ← fileDigest host task.targetPath
      return digest == permit.targetPostimageDigest
  match verified with
  | .ok true =>
    match relativeTo? task.targetPath task.repoPath with
    | none => raise (pyRepr task.targetPath ++ " is not in the subpath of " ++
        pyRepr task.repoPath)
    | some targetFile =>
      let digest ← fileDigest host task.targetPath
      let result : Dict :=
        [("status", .str "succeeded"),
         ("external_refs", .obj
            [("authority_receipt", .obj (receipt.set "target_postimage_digest" (.str digest))),
             ("backup_path", .str task.backupPath),
             ("patched_files", .arr [.str targetFile]),
             ("test_results", .arr results)]),
         ("retryable", .bool false)]
      let _ ← transitionPermit permit.permitId .verifying .committed
        (some [("committed_postimage_digest", .str digest)]) (some result)
      return result
  | _ =>
    abortWithRestoration host permit .verifying
      "repo patch target drifted during bounded verification" results

/-- `execute_patch` from the state `applied` on. -/
def verifyPatch (receipt : Dict) :
    Py Dict := do
  let digest ← fileDigest host task.targetPath
  if digest != permit.targetPostimageDigest then
    abortWithRestoration host permit .applied
      "repo patch target postimage verification failed" []
  else
    let _ ← transitionPermit permit.permitId .applied .verifying none none
    let outcome ← runTestCommands host permit task.repoPath task.commands []
    match outcome with
    | .aborted result => return result
    | .passed results => commitPatch host permit task receipt results

/-- `execute_patch` once the permit is claimed. -/
def applyPatch (receipt : Dict) :
    Py Dict := do
  let _ ← transitionPermit permit.permitId .claimed .applying none none
  let changed ← tryExcept [.osError] do
    let linked ← isSymlink task.targetPath
    if linked then
      return true
    else
      let digest ← fileDigest host task.targetPath
      return digest != permit.targetPreimageDigest
  match changed with
  | .error _ =>
    abortWithRestoration host permit .applying
      "repo patch target became unavailable after authority claim" []
  | .ok true =>
    abortWithRestoration host permit .applying
      "repo patch target changed after authority claim" []
  | .ok false =>
    let replaced ← tryExcept [.osError] (atomicReplaceBytes task.targetPath task.postimage)
    match replaced with
    | .error e =>
      abortWithRestoration host permit .applying
        ("repo patch atomic replacement failed: " ++ e.text) []
    | .ok () =>
      let _ ← transitionPermit permit.permitId .applying .applied none none
      verifyPatch host permit task receipt

variable (attached : Dict)

/-- `consume` on the attached mapping: one that spells no permit fails the
permit's schema. -/
def consumeAttached (decision : Decision)
    (idempotencyKey : String) (parameters : Dict) : Py (Permit × Dict) :=
  match permitOfDict? attached with
  | some permit => do
    let receipt ← consumePermit host permit decision idempotencyKey parameters
    return (permit, receipt)
  | none => do
    pure? (requireAuthorityConfiguration host.permits)
    pure? (.error ⟨.schemaValidationError, "repo-patch-execution-permit.schema.json"⟩)

/-- `permit["permit_id"]`, which is about to be encoded. -/
def attachedPermitId : Except PyError String := do
  let permitId ← requireKey attached "permit_id"
  match permitId with
  | .str text => return text
  | _ => .error ⟨.exception, "object has no attribute 'encode'"⟩

def backupPathFor (permitId : String) : String :=
  joinPath host.backupDirectory (host.sha.ofBytes (encodeUtf8 permitId) ++ ".bak")

/-- `execute_patch` from the durable preparation on. -/
def runTransaction (decision : Decision)
    (idempotencyKey : String) (parameters : Dict) (permitId : String) (task : PatchTask) :
    Py Dict := do
  let prepared ← tryExcept [.osError, .typeError, .valueError] do
    writeImmutableBackup task.backupPath task.original
    transitionPermit permitId .issued .prepared
      (some
        [("backup_path", .str task.backupPath),
         ("repo_path", .str task.repoPath),
         ("target_path", .str task.targetPath)]) none
  match prepared with
  | .error e =>
    return authorityFailure ("repo patch durable preparation rejected: " ++ e.text)
  | .ok _ =>
    let consumed ← tryExcept restorationErrors
      (consumeAttached host attached decision idempotencyKey parameters)
    match consumed with
    | .error e =>
      return authorityFailure ("repo patch execution permit rejected: " ++ e.text)
    | .ok (permit, receipt) => applyPatch host permit task receipt

/-- The first `try` of `execute_patch`: the target as it is now, against the
digests of the permit; or the failure to return. -/
def bindTarget (attached parameters : Dict) :
    Py (Except Dict (String × String × Bytes)) := do
  let bound ← tryExcept restorationErrors do
    let (repoPath, targetPath, preimageDigest) ← repoPatchTargetBinding host parameters
    if !Json.pyEqOpt (attached.get? "target_preimage_digest") (some (.str preimageDigest)) then
      return .error (authorityFailure
        "repo patch execution permit rejected: target preimage mismatch")
    else
      let (postimage, postimageDigest) ← readPostimage host parameters targetPath
      if !Json.pyEqOpt (attached.get? "target_postimage_digest")
          (some (.str postimageDigest)) then
        return .error (authorityFailure
          "repo patch execution permit rejected: target postimage mismatch")
      else return .ok (repoPath, targetPath, postimage)
  match bound with
  | .error e => return .error (authorityFailure ("repo patch target binding rejected: " ++ e.text))
  | .ok outcome => return outcome

/-- `execute_patch` from the target binding to the durable preparation. -/
def executeBound (decision : Decision)
    (idempotencyKey : String) (parameters : Dict) : Py Dict := do
  let bound ← bindTarget host attached parameters
  match bound with
  | .error failure => return failure
  | .ok (repoPath, targetPath, postimage) =>
    if (relativeTo? host.backupDirectory repoPath).isSome then
      return authorityFailure
        "repo patch authority state must be outside the target repository"
    else
      let authorized ← tryExcept [.typeError, .valueError]
        (pure? (authorizeTestCommands host
          ((parameters.get? "test_commands").getD (.arr []))))
      match authorized with
      | .error e =>
        return authorityFailure ("repo patch verification policy rejected: " ++ e.text)
      | .ok commands =>
        let read ← tryExcept [.osError] (readBytes targetPath)
        match read with
        | .error e => return authorityFailure ("repo patch preflight failed: " ++ e.text)
        | .ok original =>
          let digest ← fileDigest host targetPath
          let preimageDigest ← pure? (requireKey attached "target_preimage_digest")
          if !Json.pyEq (.str digest) preimageDigest then
            return authorityFailure
              "repo patch execution permit rejected: target preimage changed"
          else
            let permitId ← pure? (attachedPermitId attached)
            let backupPath := backupPathFor host permitId
            runTransaction host attached decision idempotencyKey parameters permitId
              { repoPath, targetPath, postimage, commands, original, backupPath }

def executePatch (idempotencyKey : String)
    (resolvedParameters : Option Dict) : Py Dict := do
  let contextFailure ← pure? (repoPatchAdmissionFailure host decision)
  match contextFailure with
  | some failure => return failure
  | none =>
    match executionPermit? decision with
    | none => return authorityFailure "repo patch execution permit is missing"
    | some attached =>
      if !Json.pyEqOpt (attached.get? "idempotency_key") (some (.str idempotencyKey)) then
        return authorityFailure "repo patch execution permit idempotency key mismatch"
      else
        let terminal ← tryExcept [.osError, .typeError, .valueError]
          (onLedger (.terminalResultForIdempotency idempotencyKey))
        match terminal with
        | .error e =>
          return authorityFailure ("repo patch terminal-result lookup rejected: " ++ e.text)
        | .ok (some result) => return result
        | .ok none =>
          let parameters := match resolvedParameters with
            | some (first :: rest) => first :: rest
            | _ => decision.parameters
          executeBound host attached decision idempotencyKey parameters

end OrbitalMesh
