import OrbitalMesh.Runtime

/-!
# Authority records, receipts and their transitions

The record machine of both authority stores
(`shared/mesh_runtime/repo_patch_authority_store.py`).  A record is issued, leased
for dispatch, dispatched and completed; an expired lease can be reclaimed.  Every
transition is a compare-and-set on the version and appends one receipt that is
hash-chained to those before it.

The checks (`validateRecordBinding`) are written over the record's JSON form,
because the reconciliation reader applies them to whatever the file holds.
-/

namespace OrbitalMesh

def authorityStoreVersion : String := "mesh.repo_patch_authority_store.v1"

def authorityRecordVersion : String := "mesh.repo_patch_authority_record.v1"

def authorityEventVersion : String := "mesh.repo_patch_authority_event_receipt.v1"

/-- The `state` field of a record. -/
inductive AuthorityState where
  | issued
  | leased
  | dispatched
  | terminal
deriving DecidableEq

def AuthorityState.text : AuthorityState → String
  | .issued => "issued"
  | .leased => "leased"
  | .dispatched => "dispatched"
  | .terminal => "terminal"

/-- The `event_type` field of a receipt. -/
inductive EventType where
  | issued
  | leasedForDispatch
  | expiredPreDispatchLeaseReclaimed
  | markedDispatched
  | terminalCompleted
deriving DecidableEq

def EventType.text : EventType → String
  | .issued => "issued"
  | .leasedForDispatch => "leased_for_dispatch"
  | .expiredPreDispatchLeaseReclaimed => "expired_pre_dispatch_lease_reclaimed"
  | .markedDispatched => "marked_dispatched"
  | .terminalCompleted => "terminal_completed"

/-- `TERMINAL_OUTCOMES`. -/
inductive TerminalOutcome where
  | succeeded
  | failed
  | rejected
  | unknown
deriving DecidableEq

def TerminalOutcome.text : TerminalOutcome → String
  | .succeeded => "succeeded"
  | .failed => "failed"
  | .rejected => "rejected"
  | .unknown => "unknown"

/-- Membership in `TERMINAL_OUTCOMES`. -/
def TerminalOutcome.ofText? (outcome : String) : Option TerminalOutcome :=
  [.succeeded, .failed, .rejected, .unknown].find? fun o => o.text == outcome

/-- The dictionary `_validated_issue_request` returns. -/
structure IssueRequest where
  authorityId : String
  idempotencyKey : String
  nonce : String
  actionBinding : Json
  actionBindingDigest : String

structure AuthorityRecord extends IssueRequest where
  schemaVersion : String
  state : AuthorityState
  version : Nat
  leaseId : Option String
  leaseExpiresAt : Option Instant
  dispatchedAt : Option Instant
  terminalOutcome : Option TerminalOutcome
  terminalResult : Option Json
  issuedAt : Instant
  updatedAt : Instant
  eventSequence : Nat
  latestEventDigest : String

structure EventBody where
  schemaVersion : String
  authorityId : String
  sequence : Nat
  eventType : EventType
  stateVersion : Nat
  actionBindingDigest : String
  previousEventDigest : String
  recordedAt : Instant
  payload : Dict

structure EventReceipt extends EventBody where
  eventId : String
  eventDigest : String

def jsonText (value : Option String) : Json := (value.map Json.str).getD .null

def jsonTime (value : Option Instant) : Json :=
  (value.map fun t => Json.str (formatTime t)).getD .null

def AuthorityRecord.toDict (r : AuthorityRecord) : Dict :=
  [("schema_version", .str r.schemaVersion),
   ("authority_id", .str r.authorityId),
   ("idempotency_key", .str r.idempotencyKey),
   ("nonce", .str r.nonce),
   ("action_binding", r.actionBinding),
   ("action_binding_digest", .str r.actionBindingDigest),
   ("state", .str r.state.text),
   ("version", .int r.version),
   ("lease_id", jsonText r.leaseId),
   ("lease_expires_at", jsonTime r.leaseExpiresAt),
   ("dispatched_at", jsonTime r.dispatchedAt),
   ("terminal_outcome", jsonText (r.terminalOutcome.map TerminalOutcome.text)),
   ("terminal_result", r.terminalResult.getD .null),
   ("issued_at", .str (formatTime r.issuedAt)),
   ("updated_at", .str (formatTime r.updatedAt)),
   ("event_sequence", .int r.eventSequence),
   ("latest_event_digest", .str r.latestEventDigest)]

/-- The JSON form of the hashed part of a receipt. -/
def EventBody.toDict (e : EventBody) : Dict :=
  [("schema_version", .str e.schemaVersion),
   ("authority_id", .str e.authorityId),
   ("sequence", .int e.sequence),
   ("event_type", .str e.eventType.text),
   ("state_version", .int e.stateVersion),
   ("action_binding_digest", .str e.actionBindingDigest),
   ("previous_event_digest", .str e.previousEventDigest),
   ("recorded_at", .str (formatTime e.recordedAt)),
   ("payload", .obj e.payload)]

def EventReceipt.toDict (e : EventReceipt) : Dict :=
  e.toEventBody.toDict ++
    [("event_id", .str e.eventId), ("event_digest", .str e.eventDigest)]

def requiredText (value field : String) : Except PyError Unit :=
  rejectIf (isBlank value)
    ⟨.authorityStoreError, field ++ " must be a nonempty string"⟩

def requiredVersion (value : Int) : Except PyError Unit :=
  rejectIf (decide (value < 1))
    ⟨.authorityStoreError, "expected_version must be a positive integer"⟩

/-- `isinstance(value, dict) and value`. -/
def isNonemptyObject : Json → Bool
  | .obj (_ :: _) => true
  | _ => false

variable (sha : Sha256)

/-- `_validate_record_binding`, on the JSON form of a record. -/
def validateRecordBinding (record : Dict) : Except PyError Unit := do
  rejectIf (!Json.pyEqOpt (record.get? "schema_version") (some (.str authorityRecordVersion)))
    ⟨.authorityStoreError, "unsupported repo-patch authority-record version"⟩
  let binding := (record.get? "action_binding").getD .null
  rejectIf (!isNonemptyObject binding)
    ⟨.authorityStoreError, "authority record action binding is malformed"⟩
  rejectIf (!Json.pyEqOpt (record.get? "action_binding_digest")
      (some (.str (canonicalDigest sha binding))))
    ⟨.authorityStoreError, "authority record action binding digest is invalid"⟩

/-- `_validated_issue_request`.  The binding is JSON data, which `_json_copy`
returns unchanged. -/
def validatedIssueRequest (authorityId idempotencyKey nonce : String)
    (actionBinding : Json) : Except PyError IssueRequest := do
  requiredText authorityId "authority_id"
  requiredText idempotencyKey "idempotency_key"
  rejectIf (!isHex64 nonce)
    ⟨.authorityStoreError, "nonce must be 64 lowercase hexadecimal characters"⟩
  rejectIf (!isNonemptyObject actionBinding)
    ⟨.authorityStoreError, "action_binding must be a nonempty object"⟩
  return { authorityId, idempotencyKey, nonce, actionBinding
           actionBindingDigest := canonicalDigest sha actionBinding }

variable (record : AuthorityRecord)

def requireTransition (expectedVersion : Int)
    (allowedStates : List AuthorityState) : Except PyError Unit := do
  validateRecordBinding sha record.toDict
  requiredVersion expectedVersion
  rejectIf (decide ((record.version : Int) ≠ expectedVersion))
    ⟨.authorityConflictError, "authority version conflict: expected " ++
      toString expectedVersion ++ ", found " ++ toString record.version⟩
  rejectIf (!allowedStates.contains record.state)
    ⟨.authorityStateError, "authority state " ++ pyRepr record.state.text ++
      " does not allow this transition"⟩

def requireLease (leaseId : String) : Except PyError Unit := do
  requiredText leaseId "lease_id"
  rejectIf (decide (record.leaseId ≠ some leaseId))
    ⟨.authorityConflictError, "authority lease id mismatch"⟩

def requireSameIssue (existing : AuthorityRecord) (request : IssueRequest) :
    Except PyError Unit := do
  validateRecordBinding sha existing.toDict
  rejectIf (decide (existing.authorityId ≠ request.authorityId))
    ⟨.authorityConflictError, "issue-or-get conflict on authority_id"⟩
  rejectIf (decide (existing.idempotencyKey ≠ request.idempotencyKey))
    ⟨.authorityConflictError, "issue-or-get conflict on idempotency_key"⟩
  rejectIf (decide (existing.nonce ≠ request.nonce))
    ⟨.authorityConflictError, "issue-or-get conflict on nonce"⟩
  rejectIf (decide (existing.actionBindingDigest ≠ request.actionBindingDigest))
    ⟨.authorityConflictError, "issue-or-get conflict on action_binding_digest"⟩
  rejectIf (!Json.pyEq existing.actionBinding request.actionBinding)
    ⟨.authorityConflictError, "issue-or-get conflict on full action binding"⟩

/-- `_format_time` refuses a naive datetime. -/
def requireAware (now : Reading) : Except PyError Instant :=
  match now with
  | some t => .ok t
  | none => .error ⟨.authorityStoreError,
      "authority-store clock must return a timezone-aware datetime"⟩

/-- `now <= deadline`; naive and aware datetimes cannot be compared. -/
def isNotAfter (now : Reading) (deadline : Instant) : Except PyError Bool :=
  match now with
  | some t => .ok (decide (t ≤ deadline))
  | none => .error ⟨.typeError, "can't compare offset-naive and offset-aware datetimes"⟩

/-- `_format_time(now + timedelta(seconds=seconds))`. -/
def leaseExpiry (now : Reading) (seconds : Int) : Except PyError Instant := do
  let t ← requireAware now
  addSeconds t seconds

/-- `text.removeprefix(start)`, on characters. -/
def removeStart (start text : List Char) : List Char :=
  if start.isPrefixOf text then text.drop start.length else text

/-- `digest.removeprefix("sha256:")`. -/
def digestHex (digest : String) : String :=
  String.ofList (removeStart "sha256:".toList digest.toList)

theorem digestHex_append (hex : String) : digestHex ("sha256:" ++ hex) = hex := by
  unfold digestHex removeStart
  simp

/-- The receipt body `_with_event` writes for a record. -/
def eventBody (eventType : EventType) (payload : Dict) :
    EventBody :=
  { schemaVersion := authorityEventVersion
    authorityId := record.authorityId
    sequence := record.eventSequence + 1
    eventType
    stateVersion := record.version
    actionBindingDigest := record.actionBindingDigest
    previousEventDigest :=
      if record.latestEventDigest = "" then genesisDigest else record.latestEventDigest
    recordedAt := record.updatedAt
    payload }

/-- The `event_id` of a receipt with the given digest. -/
def eventIdOf (eventDigest : String) : String := "authority_event_" ++ digestHex eventDigest

def withEvent (eventType : EventType)
    (payload : Dict) : AuthorityRecord × EventReceipt :=
  let body := eventBody record eventType payload
  let eventDigest := canonicalDigest sha (.obj body.toDict)
  let event : EventReceipt :=
    { toEventBody := body
      eventId := eventIdOf eventDigest
      eventDigest }
  ({ record with eventSequence := body.sequence, latestEventDigest := eventDigest }, event)

def newIssue (request : IssueRequest) (now : Reading) :
    Except PyError (AuthorityRecord × EventReceipt) := do
  let timestamp ← requireAware now
  let record : AuthorityRecord :=
    { toIssueRequest := request
      schemaVersion := authorityRecordVersion
      state := .issued
      version := 1
      leaseId := none
      leaseExpiresAt := none
      dispatchedAt := none
      terminalOutcome := none
      terminalResult := none
      issuedAt := timestamp
      updatedAt := timestamp
      eventSequence := 0
      latestEventDigest := genesisDigest }
  return withEvent sha record .issued
    [("idempotency_key", .str request.idempotencyKey), ("nonce", .str request.nonce)]

variable (current : AuthorityRecord)

/-- The reclaim checks of `_lease_transition`: only an expired lease may be
taken over, and only under a fresh id. -/
def requireReclaimable (leaseId : String) (now : Reading) :
    Except PyError Unit := do
  match current.leaseExpiresAt with
  | none => .error ⟨.authorityStateError, "authority pre-dispatch lease is still active"⟩
  | some deadline =>
    let active ← isNotAfter now deadline
    rejectIf active ⟨.authorityStateError, "authority pre-dispatch lease is still active"⟩
  rejectIf (decide (current.leaseId = some leaseId))
    ⟨.authorityConflictError, "authority expired lease reclaim requires a fresh lease id"⟩

def leaseTransition (expectedVersion : Int)
    (leaseId : String) (leaseSeconds : Int) (now : Reading) :
    Except PyError (AuthorityRecord × EventReceipt) := do
  requireTransition sha current expectedVersion [.issued, .leased]
  requiredText leaseId "lease_id"
  rejectIf (decide (leaseSeconds ≤ 0))
    ⟨.authorityStoreError, "lease_seconds must be a positive integer"⟩
  if current.state = .leased then requireReclaimable current leaseId now
  let expiresAt ← leaseExpiry now leaseSeconds
  let updatedAt ← requireAware now
  let updated :=
    { current with
      state := .leased
      version := expectedVersion.toNat + 1
      leaseId := some leaseId
      leaseExpiresAt := some expiresAt
      updatedAt }
  return withEvent sha updated
    (if current.state = .leased then .expiredPreDispatchLeaseReclaimed
      else .leasedForDispatch)
    [("lease_id", .str leaseId),
     ("lease_expires_at", .str (formatTime expiresAt)),
     ("previous_lease_id", jsonText current.leaseId)]

def dispatchTransition (expectedVersion : Int)
    (leaseId : String) (now : Reading) :
    Except PyError (AuthorityRecord × EventReceipt) := do
  requireTransition sha current expectedVersion [.leased]
  requireLease current leaseId
  match current.leaseExpiresAt with
  | none => .error ⟨.authorityStateError, "authority dispatch lease expired"⟩
  | some deadline =>
    let live ← isNotAfter now deadline
    rejectIf (!live) ⟨.authorityStateError, "authority dispatch lease expired"⟩
  let timestamp ← requireAware now
  let updated :=
    { current with
      state := .dispatched
      version := expectedVersion.toNat + 1
      dispatchedAt := some timestamp
      updatedAt := timestamp }
  return withEvent sha updated .markedDispatched [("lease_id", .str leaseId)]

/-- `outcome not in TERMINAL_OUTCOMES`. -/
def requireOutcome (outcome : String) : Except PyError TerminalOutcome :=
  match TerminalOutcome.ofText? outcome with
  | some o => .ok o
  | none => .error ⟨.authorityStoreError,
      "unsupported terminal outcome " ++ pyRepr outcome⟩

/-- `isinstance(result, dict)`. -/
def isObject (value : Json) : Bool := value.asObj?.isSome

def terminalTransition (expectedVersion : Int)
    (leaseId outcome : String) (result : Json) (now : Reading) :
    Except PyError (AuthorityRecord × EventReceipt) := do
  requireTransition sha current expectedVersion [.leased, .dispatched]
  requireLease current leaseId
  let outcome ← requireOutcome outcome
  rejectIf (current.state = .leased && !(outcome = .failed || outcome = .rejected))
    ⟨.authorityStateError, "a pre-dispatch lease may complete only as failed or rejected"⟩
  rejectIf (!isObject result)
    ⟨.authorityStoreError, "terminal result must be an object"⟩
  let timestamp ← requireAware now
  let updated :=
    { current with
      state := .terminal
      version := expectedVersion.toNat + 1
      terminalOutcome := some outcome
      terminalResult := some result
      updatedAt := timestamp }
  return withEvent sha updated .terminalCompleted
    [("lease_id", .str leaseId),
     ("outcome", .str outcome.text),
     ("result_digest", .str (canonicalDigest sha result)),
     ("dispatch_observed", .bool (current.state = .dispatched))]

section

variable {sha : Sha256} {current updated : AuthorityRecord} {event : EventReceipt}
  {expectedVersion leaseSeconds : Int} {leaseId outcome : String} {result : Json}
  {now : Reading} {u : Unit}

theorem validateRecordBinding_ok_iff :
    validateRecordBinding sha current.toDict = .ok u ↔
      current.schemaVersion = authorityRecordVersion ∧
        isNonemptyObject current.actionBinding = true ∧
        current.actionBindingDigest = canonicalDigest sha current.actionBinding := by
  have hschema : Dict.get? current.toDict "schema_version" =
      some (.str current.schemaVersion) := by
    simp [AuthorityRecord.toDict, Dict.get?_cons]
  have hbinding : Dict.get? current.toDict "action_binding" = some current.actionBinding := by
    simp [AuthorityRecord.toDict, Dict.get?_cons]
  have hdigest : Dict.get? current.toDict "action_binding_digest" =
      some (.str current.actionBindingDigest) := by
    simp [AuthorityRecord.toDict, Dict.get?_cons]
  simp [validateRecordBinding, Except.bind_ok_iff, hschema, hbinding, hdigest,
    Json.pyEqOpt_str_iff]

theorem requireTransition_ok {states : List AuthorityState}
    (h : requireTransition sha current expectedVersion states = .ok u) :
    expectedVersion = current.version ∧ 1 ≤ current.version ∧ current.state ∈ states := by
  simp only [requireTransition, Except.bind_ok_iff, requiredVersion, rejectIf_ok] at h
  obtain ⟨_, -, _, hpos, _, hversion, hstate⟩ := h
  have hv : (current.version : Int) = expectedVersion := by simpa using hversion
  have hp : ¬ expectedVersion < 1 := by simpa using hpos
  exact ⟨hv.symm, by omega, by simpa using hstate⟩

theorem requireLease_ok (h : requireLease current leaseId = .ok u) :
    current.leaseId = some leaseId ∧ isBlank leaseId = false := by
  simp only [requireLease, Except.bind_ok_iff, requiredText, rejectIf_ok] at h
  obtain ⟨_, htext, hlease⟩ := h
  exact ⟨by simpa using hlease, htext⟩

variable {request : IssueRequest}

theorem requireSameIssue_ok {existing : AuthorityRecord}
    (h : requireSameIssue sha existing request = .ok u) :
    existing.authorityId = request.authorityId ∧
      existing.idempotencyKey = request.idempotencyKey ∧ existing.nonce = request.nonce := by
  simp only [requireSameIssue, Except.bind_ok_iff, rejectIf_ok] at h
  obtain ⟨_, -, _, hid, _, hkey, _, hnonce, -⟩ := h
  exact ⟨by simpa using hid, by simpa using hkey, by simpa using hnonce⟩

theorem requireAware_ok {t : Instant} : requireAware now = .ok t ↔ now = some t := by
  cases now <;> simp [requireAware]

theorem isNotAfter_ok {deadline : Instant} {b : Bool} :
    isNotAfter now deadline = .ok b ↔ ∃ t, now = some t ∧ decide (t ≤ deadline) = b := by
  cases now <;> simp [isNotAfter]

theorem leaseExpiry_ok {seconds : Int} {expiresAt : Instant} (hpos : 0 < seconds)
    (h : leaseExpiry now seconds = .ok expiresAt) : ∃ t, now = some t ∧ t < expiresAt := by
  simp only [leaseExpiry, Except.bind_ok_iff, requireAware_ok] at h
  obtain ⟨t, hnow, hadd⟩ := h
  refine ⟨t, hnow, ?_⟩
  unfold addSeconds at hadd
  split at hadd
  · rw [← Except.ok.inj hadd]
    exact Int.lt_add_of_pos_right t (Int.mul_pos hpos (by decide))
  · cases hadd

theorem requireReclaimable_ok (h : requireReclaimable current leaseId now = .ok u) :
    current.leaseId ≠ some leaseId ∧
      ∃ t deadline, now = some t ∧ current.leaseExpiresAt = some deadline ∧ deadline < t := by
  unfold requireReclaimable at h
  split at h
  · simp [bind, Except.bind] at h
  · next deadline hdeadline =>
    simp only [Except.bind_ok_iff, rejectIf_ok, isNotAfter_ok] at h
    obtain ⟨_, ⟨t, hnow, htime⟩, _, hactive, hfresh⟩ := h
    have hlate : ¬ t ≤ deadline := by simpa [hactive] using htime
    exact ⟨by simpa using hfresh, t, deadline, hnow, hdeadline, Int.lt_of_not_ge hlate⟩

section

variable (h : newIssue sha request now = .ok (updated, event))

include h

theorem newIssue_ok :
    ∃ record : AuthorityRecord, record.toIssueRequest = request ∧
      record.schemaVersion = authorityRecordVersion ∧ record.state = .issued ∧
      record.version = 1 ∧ record.eventSequence = 0 ∧
      record.latestEventDigest = genesisDigest ∧ record.terminalOutcome = none ∧
      record.leaseId = none ∧ record.leaseExpiresAt = none ∧
      (updated, event) = withEvent sha record .issued
        [("idempotency_key", .str request.idempotencyKey), ("nonce", .str request.nonce)] := by
  simp only [newIssue, Except.bind_ok_iff] at h
  obtain ⟨t, -, h⟩ := h
  exact ⟨_, rfl, rfl, rfl, rfl, rfl, rfl, rfl, rfl, rfl, (Except.ok.inj h).symm⟩

theorem newIssue_identity : updated.toIssueRequest = request := by
  obtain ⟨base, hbase, -, -, -, -, -, -, -, -, hevent⟩ := newIssue_ok h
  rw [(Prod.mk.inj hevent).1, ← hbase]

theorem newIssue_event_authorityId : event.authorityId = request.authorityId := by
  obtain ⟨base, hbase, -, -, -, -, -, -, -, -, hevent⟩ := newIssue_ok h
  rw [(Prod.mk.inj hevent).2, ← hbase]
  rfl

end

theorem leaseTransition_ok
    (h : leaseTransition sha current expectedVersion leaseId leaseSeconds now =
      .ok (updated, event)) :
    ∃ t expiresAt, now = some t ∧ expectedVersion = current.version ∧
      (current.state = .issued ∨ current.state = .leased ∧
        ∃ deadline, current.leaseExpiresAt = some deadline ∧ deadline < t ∧
          current.leaseId ≠ some leaseId) ∧
      isBlank leaseId = false ∧ t < expiresAt ∧
      (updated, event) = withEvent sha
        { current with
          state := .leased
          version := current.version + 1
          leaseId := some leaseId
          leaseExpiresAt := some expiresAt
          updatedAt := t }
        (if current.state = .leased then .expiredPreDispatchLeaseReclaimed
          else .leasedForDispatch)
        [("lease_id", .str leaseId),
         ("lease_expires_at", .str (formatTime expiresAt)),
         ("previous_lease_id", jsonText current.leaseId)] := by
  simp only [leaseTransition, Except.bind_ok_iff, requiredText, rejectIf_ok] at h
  obtain ⟨_, hrequire, _, hblank, _, hseconds, h⟩ := h
  obtain ⟨hversion, -, hstate⟩ := requireTransition_ok hrequire
  have hpos : 0 < leaseSeconds := by simpa using hseconds
  subst hversion
  by_cases hleased : current.state = .leased
  · simp only [hleased, ↓reduceIte, Except.bind_ok_iff, requireAware_ok] at h
    obtain ⟨_, hreclaim, expiresAt, hexpiry, t, hnow, h⟩ := h
    obtain ⟨hfresh, t', deadline, hnow', hdeadline, hlate⟩ := requireReclaimable_ok hreclaim
    obtain ⟨t'', hnow'', hexpires⟩ := leaseExpiry_ok hpos hexpiry
    have ht' : t' = t := Option.some.inj (hnow'.symm.trans hnow)
    have ht'' : t'' = t := Option.some.inj (hnow''.symm.trans hnow)
    subst ht' ht''
    refine ⟨_, expiresAt, hnow, rfl, .inr ⟨hleased, deadline, hdeadline, hlate, hfresh⟩,
      hblank, hexpires, ?_⟩
    simpa [hleased] using (Except.ok.inj h).symm
  · simp only [hleased, ↓reduceIte, Except.bind_ok_iff, requireAware_ok] at h
    obtain ⟨expiresAt, hexpiry, t, hnow, h⟩ := h
    obtain ⟨t'', hnow'', hexpires⟩ := leaseExpiry_ok hpos hexpiry
    have ht'' : t'' = t := Option.some.inj (hnow''.symm.trans hnow)
    subst ht''
    have hissued : current.state = .issued := by simpa [hleased] using hstate
    refine ⟨_, expiresAt, hnow, rfl, .inl hissued, hblank, hexpires, ?_⟩
    simpa [hleased] using (Except.ok.inj h).symm

theorem dispatchTransition_ok
    (h : dispatchTransition sha current expectedVersion leaseId now =
      .ok (updated, event)) :
    ∃ t deadline, now = some t ∧ expectedVersion = current.version ∧
      current.state = .leased ∧ current.leaseId = some leaseId ∧
      current.leaseExpiresAt = some deadline ∧ t ≤ deadline ∧
      (updated, event) = withEvent sha
        { current with
          state := .dispatched
          version := current.version + 1
          dispatchedAt := some t
          updatedAt := t }
        .markedDispatched [("lease_id", .str leaseId)] := by
  unfold dispatchTransition at h
  simp only [Except.bind_ok_iff] at h
  obtain ⟨_, hrequire, _, hlease, h⟩ := h
  obtain ⟨hversion, -, hstate⟩ := requireTransition_ok hrequire
  obtain ⟨hleaseId, -⟩ := requireLease_ok hlease
  subst hversion
  have hleased : current.state = .leased := by simpa using hstate
  split at h
  · cases h
  · next deadline hdeadline =>
    simp only [Except.bind_ok_iff, rejectIf_ok, isNotAfter_ok, requireAware_ok] at h
    obtain ⟨_, ⟨t, hnow, htime⟩, _, hlive, t', hnow', h⟩ := h
    have ht : t' = t := Option.some.inj (hnow'.symm.trans hnow)
    subst ht
    have hle : t' ≤ deadline := by simpa [← htime] using hlive
    exact ⟨_, deadline, hnow, rfl, hleased, hleaseId, hdeadline, hle,
      (Except.ok.inj h).symm⟩

theorem terminalTransition_ok
    (h : terminalTransition sha current expectedVersion leaseId outcome result now =
      .ok (updated, event)) :
    ∃ t o, now = some t ∧ TerminalOutcome.ofText? outcome = some o ∧
      expectedVersion = current.version ∧
      (current.state = .dispatched ∨
        current.state = .leased ∧ (o = .failed ∨ o = .rejected)) ∧
      current.leaseId = some leaseId ∧ isObject result = true ∧
      (updated, event) = withEvent sha
        { current with
          state := .terminal
          version := current.version + 1
          terminalOutcome := some o
          terminalResult := some result
          updatedAt := t }
        .terminalCompleted
        [("lease_id", .str leaseId),
         ("outcome", .str o.text),
         ("result_digest", .str (canonicalDigest sha result)),
         ("dispatch_observed", .bool (current.state = .dispatched))] := by
  unfold terminalTransition at h
  simp only [Except.bind_ok_iff, rejectIf_ok, requireAware_ok] at h
  obtain ⟨_, hrequire, _, hlease, o, houtcome, _, hallowed, _, hobject, t, hnow, h⟩ := h
  obtain ⟨hversion, -, hstate⟩ := requireTransition_ok hrequire
  obtain ⟨hleaseId, -⟩ := requireLease_ok hlease
  subst hversion
  have hof : TerminalOutcome.ofText? outcome = some o := by
    unfold requireOutcome at houtcome
    split at houtcome
    · next o' ho' => rw [ho', Except.ok.inj houtcome]
    · cases houtcome
  have hstates : current.state = .dispatched ∨
      current.state = .leased ∧ (o = .failed ∨ o = .rejected) := by
    rcases (by simpa using hstate : current.state = .leased ∨ current.state = .dispatched)
      with hleased | hdispatched
    · refine .inr ⟨hleased, ?_⟩
      simpa [hleased, Classical.or_iff_not_imp_left] using hallowed
    · exact .inl hdispatched
  exact ⟨t, o, hnow, hof, rfl, hstates, hleaseId, by simpa using hobject,
    (Except.ok.inj h).symm⟩

end

end OrbitalMesh
