import OrbitalMesh.Authority.Reconciliation

/-!
# The file-backed authority store

`FileRepoPatchAuthorityStore` keeps one JSON document with four tables.  Every
call runs under an exclusive lock and writes the document back only when it
does not raise, so that a failing call leaves the store as it was.  A missing
or empty file is read as four empty tables.
-/

namespace OrbitalMesh

/-- The document of the file store, after `_file_root`. -/
structure AuthorityRoot where
  records : Table AuthorityRecord
  idempotency : Table String
  nonces : Table String
  events : Table (List EventReceipt)

/-- The document of a store that has never been written. -/
def AuthorityRoot.empty : AuthorityRoot := ⟨∅, ∅, ∅, ∅⟩

variable (sha : Sha256)

def requiredRecord (records : Table AuthorityRecord) (authorityId : String) :
    Except PyError AuthorityRecord := do
  requiredText authorityId "authority_id"
  match records[authorityId]? with
  | none => .error ⟨.authorityNotFoundError,
      "authority record " ++ pyRepr authorityId ++ " does not exist"⟩
  | some record =>
    validateRecordBinding sha record.toDict
    return record

variable (root : AuthorityRoot)

def storeFileTransition (updated : AuthorityRecord)
    (event : EventReceipt) : Except PyError AuthorityRoot :=
  match root.events[updated.authorityId]? with
  | none => .error ⟨.authorityStoreError, "authority event receipts are missing"⟩
  | some events => .ok
      { root with
        events := root.events.insert updated.authorityId (events ++ [event])
        records := root.records.insert updated.authorityId updated }

/-- `root["idempotency"].get(key) or (authority_id if authority_id in
root["records"] else None)`. -/
def existingAuthorityId (request : IssueRequest) : Option String :=
  match root.idempotency[request.idempotencyKey]? with
  | some owner => if owner = "" then byAuthorityId else some owner
  | none => byAuthorityId
where
  byAuthorityId : Option String :=
    if root.records[request.authorityId]?.isSome then some request.authorityId else none

/-- `FileRepoPatchAuthorityStore.issue_or_get`. -/
def fileIssueOrGet
    (authorityId idempotencyKey nonce : String) (actionBinding : Json) (now : Reading) :
    Except PyError (AuthorityRecord × AuthorityRoot) := do
  let request ← validatedIssueRequest sha authorityId idempotencyKey nonce actionBinding
  match existingAuthorityId root request with
  | some existingId =>
    let existing ← requiredRecord sha root.records existingId
    requireSameIssue sha existing request
    return (existing, root)
  | none =>
    match root.nonces[nonce]? with
    | some owner => .error ⟨.authorityConflictError,
        "authority nonce already belongs to " ++ pyRepr owner⟩
    | none =>
      let (record, event) ← newIssue sha request now
      return (record,
        { records := root.records.insert authorityId record
          idempotency := root.idempotency.insert idempotencyKey authorityId
          nonces := root.nonces.insert nonce authorityId
          events := root.events.insert authorityId [event] })

variable (authorityId : String)

/-- The shape of the three transition calls: look the record up, run the
transition, store the new record and its receipt. -/
def fileTransition
    (transition : AuthorityRecord → Except PyError (AuthorityRecord × EventReceipt)) :
    Except PyError (AuthorityRecord × AuthorityRoot) := do
  let current ← requiredRecord sha root.records authorityId
  let (updated, event) ← transition current
  let root ← storeFileTransition root updated event
  return (updated, root)

variable (expectedVersion : Int) (leaseId : String)

/-- `FileRepoPatchAuthorityStore.lease_for_dispatch`. -/
def fileLeaseForDispatch (leaseSeconds : Int) (now : Reading) :
    Except PyError (AuthorityRecord × AuthorityRoot) :=
  fileTransition sha root authorityId fun current =>
    leaseTransition sha current expectedVersion leaseId leaseSeconds now

/-- `FileRepoPatchAuthorityStore.mark_dispatched`. -/
def fileMarkDispatched (now : Reading) : Except PyError (AuthorityRecord × AuthorityRoot) :=
  fileTransition sha root authorityId fun current =>
    dispatchTransition sha current expectedVersion leaseId now

/-- `FileRepoPatchAuthorityStore.complete_terminal`. -/
def fileCompleteTerminal (outcome : String) (result : Json) (now : Reading) :
    Except PyError (AuthorityRecord × AuthorityRoot) :=
  fileTransition sha root authorityId fun current =>
    terminalTransition sha current expectedVersion leaseId outcome result now

def receiptsJson (events : Option (List EventReceipt)) : Json :=
  match events with
  | none => .null
  | some events => .arr (events.map fun event => .obj event.toDict)

/-- `FileRepoPatchAuthorityStore.read_for_reconciliation`. -/
def fileReadForReconciliation :
    Except PyError (Option Dict) :=
  match root.records[authorityId]? with
  | none => .ok none
  | some record => do
    let view ← reconciliationPayload sha record.toDict
      (receiptsJson root.events[authorityId]?)
    return some view

/-- A call of the store interface, with the clock reading it makes. -/
inductive AuthorityCall where
  | issueOrGet (authorityId idempotencyKey nonce : String) (actionBinding : Json)
      (now : Reading)
  | leaseForDispatch (authorityId : String) (expectedVersion : Int) (leaseId : String)
      (leaseSeconds : Int) (now : Reading)
  | markDispatched (authorityId : String) (expectedVersion : Int) (leaseId : String)
      (now : Reading)
  | completeTerminal (authorityId : String) (expectedVersion : Int)
      (leaseId outcome : String) (result : Json) (now : Reading)
  | readForReconciliation (authorityId : String)

inductive AuthorityAnswer where
  | record (record : AuthorityRecord)
  | view (view : Option Dict)

def answerRecord {σ : Type} (result : Except PyError (AuthorityRecord × σ)) :
    Except PyError (AuthorityAnswer × σ) :=
  result.map fun (record, state) => (.record record, state)

def fileCall :
    AuthorityCall → Except PyError (AuthorityAnswer × AuthorityRoot)
  | .issueOrGet authorityId idempotencyKey nonce actionBinding now =>
    answerRecord (fileIssueOrGet sha root authorityId idempotencyKey nonce actionBinding now)
  | .leaseForDispatch authorityId expectedVersion leaseId leaseSeconds now =>
    answerRecord
      (fileLeaseForDispatch sha root authorityId expectedVersion leaseId leaseSeconds now)
  | .markDispatched authorityId expectedVersion leaseId now =>
    answerRecord (fileMarkDispatched sha root authorityId expectedVersion leaseId now)
  | .completeTerminal authorityId expectedVersion leaseId outcome result now =>
    answerRecord
      (fileCompleteTerminal sha root authorityId expectedVersion leaseId outcome result now)
  | .readForReconciliation authorityId =>
    (fileReadForReconciliation sha root authorityId).map fun view => (.view view, root)

/-- The store after a call: a failing call changes nothing. -/
def fileNext (call : AuthorityCall) : AuthorityRoot :=
  match fileCall sha root call with
  | .ok (_, root') => root'
  | .error _ => root

def fileRun (calls : List AuthorityCall) :
    AuthorityRoot :=
  calls.foldl (fileNext sha) root

section

variable {sha : Sha256} {root root' : AuthorityRoot} {record : AuthorityRecord}
  {authorityId : String}

theorem requiredRecord_ok {records : Table AuthorityRecord}
    (h : requiredRecord sha records authorityId = .ok record) :
    records[authorityId]? = some record ∧ isBlank authorityId = false ∧
      validateRecordBinding sha record.toDict = .ok () := by
  unfold requiredRecord at h
  simp only [Except.bind_ok_iff, requiredText, rejectIf_ok] at h
  obtain ⟨_, hblank, h⟩ := h
  split at h
  · cases h
  · next found hfound =>
    rw [Except.bind_ok_iff] at h
    obtain ⟨_, hvalid, hreturn⟩ := h
    have heq : found = record := Except.ok.inj hreturn
    rw [← heq]
    exact ⟨hfound, hblank, hvalid⟩

variable {idempotencyKey nonce : String} {actionBinding : Json}

theorem validatedIssueRequest_ok {request : IssueRequest}
    (h : validatedIssueRequest sha authorityId idempotencyKey nonce actionBinding = .ok request) :
    request = ⟨authorityId, idempotencyKey, nonce, actionBinding,
        canonicalDigest sha actionBinding⟩ ∧
      isBlank authorityId = false ∧ isBlank idempotencyKey = false ∧
      isNonemptyObject actionBinding = true := by
  simp only [validatedIssueRequest, Except.bind_ok_iff, requiredText, rejectIf_ok] at h
  obtain ⟨_, hid, _, hkey, _, -, _, hbinding, hreturn⟩ := h
  exact ⟨(Except.ok.inj hreturn).symm, hid, hkey, by simpa using hbinding⟩

theorem fileIssueOrGet_ok {now : Reading}
    (h : fileIssueOrGet sha root authorityId idempotencyKey nonce actionBinding now =
      .ok (record, root')) :
    ∃ request, validatedIssueRequest sha authorityId idempotencyKey nonce actionBinding =
        .ok request ∧
      ((∃ existingId, existingAuthorityId root request = some existingId ∧
          requiredRecord sha root.records existingId = .ok record ∧
          requireSameIssue sha record request = .ok () ∧ root' = root) ∨
        (existingAuthorityId root request = none ∧ root.nonces[nonce]? = none ∧
          ∃ event, newIssue sha request now = .ok (record, event) ∧
            root' = { records := root.records.insert authorityId record
                      idempotency := root.idempotency.insert idempotencyKey authorityId
                      nonces := root.nonces.insert nonce authorityId
                      events := root.events.insert authorityId [event] })) := by
  unfold fileIssueOrGet at h
  rw [Except.bind_ok_iff] at h
  obtain ⟨request, hrequest, h⟩ := h
  refine ⟨request, hrequest, ?_⟩
  split at h
  · next existingId hexisting =>
    simp only [Except.bind_ok_iff] at h
    obtain ⟨existing, hrecord, _, hsame, hreturn⟩ := h
    obtain ⟨rfl, rfl⟩ := Prod.mk.inj (Except.ok.inj hreturn)
    exact .inl ⟨existingId, hexisting, hrecord, hsame, rfl⟩
  · next hexisting =>
    split at h
    · cases h
    · next hnonce =>
      rw [Except.bind_ok_iff] at h
      obtain ⟨⟨issued, event⟩, hissue, hreturn⟩ := h
      obtain ⟨rfl, rfl⟩ := Prod.mk.inj (Except.ok.inj hreturn)
      exact .inr ⟨hexisting, hnonce, event, hissue, rfl⟩

theorem fileTransition_ok
    {transition : AuthorityRecord → Except PyError (AuthorityRecord × EventReceipt)}
    (h : fileTransition sha root authorityId transition = .ok (record, root')) :
    ∃ current event events, requiredRecord sha root.records authorityId = .ok current ∧
      transition current = .ok (record, event) ∧
      root.events[record.authorityId]? = some events ∧
      root' = { root with
        events := root.events.insert record.authorityId (events ++ [event])
        records := root.records.insert record.authorityId record } := by
  unfold fileTransition storeFileTransition at h
  simp only [Except.bind_ok_iff] at h
  obtain ⟨current, hcurrent, ⟨updated, event⟩, htransition, stored, hstored, hreturn⟩ := h
  obtain ⟨rfl, rfl⟩ := Prod.mk.inj (Except.ok.inj hreturn)
  split at hstored
  · cases hstored
  · next events hevents =>
    exact ⟨current, event, events, hcurrent, htransition, hevents,
      (Except.ok.inj hstored).symm⟩

end

end OrbitalMesh
