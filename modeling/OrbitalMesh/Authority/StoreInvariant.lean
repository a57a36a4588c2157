import OrbitalMesh.Authority.FileStore
import Mathlib.Computability.RegularExpressions

/-!
# The invariant of the file-backed authority store

Each record carries its whole history: its version counts its receipts, the
receipts are hash-chained to the record's latest digest, and their types spell a
word of the record's life cycle.  The two index tables list every record once.

The history invariant follows a single step (`RecordHistory.step`), the store
invariant a single call (`StoreInvariant.next`), and then a whole run
(`storeInvariant_run`).
-/

namespace OrbitalMesh

/-- The moves of a record: the state before, the receipt written, the state
after and the outcome after. -/
inductive LifecycleMove :
    AuthorityState → EventType → AuthorityState → Option TerminalOutcome → Prop
  | lease : LifecycleMove .issued .leasedForDispatch .leased none
  | reclaim : LifecycleMove .leased .expiredPreDispatchLeaseReclaimed .leased none
  | dispatch : LifecycleMove .leased .markedDispatched .dispatched none
  | complete (o : TerminalOutcome) :
      LifecycleMove .dispatched .terminalCompleted .terminal (some o)
  | abandon (o : TerminalOutcome) (h : o = .failed ∨ o = .rejected) :
      LifecycleMove .leased .terminalCompleted .terminal (some o)

/-- The receipt types of a record that has been leased and then taken over
`n` times. -/
def leaseWord (n : Nat) : List EventType :=
  [.issued, .leasedForDispatch] ++ List.replicate n .expiredPreDispatchLeaseReclaimed

/-- The receipt types that a record can have collected on reaching a state and
an outcome. -/
inductive LifecycleWord : AuthorityState → Option TerminalOutcome → List EventType → Prop
  | issued : LifecycleWord .issued none [.issued]
  | leased (n : Nat) : LifecycleWord .leased none (leaseWord n)
  | dispatched (n : Nat) : LifecycleWord .dispatched none (leaseWord n ++ [.markedDispatched])
  | completed (n : Nat) (o : TerminalOutcome) :
      LifecycleWord .terminal (some o)
        (leaseWord n ++ [.markedDispatched] ++ [.terminalCompleted])
  | abandoned (n : Nat) (o : TerminalOutcome) (h : o = .failed ∨ o = .rejected) :
      LifecycleWord .terminal (some o) (leaseWord n ++ [.terminalCompleted])

variable {s : AuthorityState} {o : Option TerminalOutcome} {event : EventReceipt}
  {s' : AuthorityState} {o' : Option TerminalOutcome} {e : EventType}
  {current updated : AuthorityRecord}

theorem LifecycleWord.move {word : List EventType} (hword : LifecycleWord s o word)
    (hmove : LifecycleMove s e s' o') : LifecycleWord s' o' (word ++ [e]) := by
  cases hmove with
  | lease =>
    cases hword with
    | issued => exact .leased 0
  | reclaim =>
    cases hword with
    | leased n =>
      have hgrow : leaseWord n ++ [.expiredPreDispatchLeaseReclaimed] =
          leaseWord (n + 1) := by
        simp [leaseWord, List.replicate_succ']
      rw [hgrow]
      exact .leased (n + 1)
  | dispatch =>
    cases hword with
    | leased n => exact .dispatched n
  | complete out =>
    cases hword with
    | dispatched n => exact .completed n out
  | abandon out h =>
    cases hword with
    | leased n => exact .abandoned n out h

theorem LifecycleWord.outcome_eq_none {word : List EventType} (hword : LifecycleWord s o word)
    (hmove : LifecycleMove s e s' o') : o = none := by
  cases hmove <;> cases hword <;> rfl

/-- The life cycle as a regular expression:
`issued (leased_for_dispatch expired_pre_dispatch_lease_reclaimed*)?
marked_dispatched? terminal_completed?`. -/
def lifecycleExpression : RegularExpression EventType :=
  .char .issued *
    (1 + .char .leasedForDispatch * .star (.char .expiredPreDispatchLeaseReclaimed)) *
    (1 + .char .markedDispatched) * (1 + .char .terminalCompleted)

private theorem leaseWord_matches (n : Nat) :
    leaseWord n ∈ (.char .issued * (1 + .char .leasedForDispatch *
      .star (.char .expiredPreDispatchLeaseReclaimed)) :
        RegularExpression EventType).matches' := by
  have hstar : List.replicate n EventType.expiredPreDispatchLeaseReclaimed ∈
      (RegularExpression.star (.char EventType.expiredPreDispatchLeaseReclaimed)).matches' := by
    refine ⟨List.replicate n [.expiredPreDispatchLeaseReclaimed], ?_, ?_⟩
    · simp
    · intro word hword
      rw [List.eq_of_mem_replicate hword]
      rfl
  rw [RegularExpression.matches'_mul, Language.mem_mul]
  refine ⟨[.issued], rfl, _, ?_, rfl⟩
  exact .inr ⟨[.leasedForDispatch], rfl, _, hstar, rfl⟩

variable {word : List EventType}

theorem LifecycleWord.matches_expression (h : LifecycleWord s o word) :
    word ∈ lifecycleExpression.matches' := by
  -- the three factors of the expression, in the order they are written
  suffices hparts : ∃ lease dispatch complete, lease ++ dispatch ++ complete = word ∧
      lease ∈ (.char .issued * (1 + .char .leasedForDispatch *
        .star (.char .expiredPreDispatchLeaseReclaimed)) :
          RegularExpression EventType).matches' ∧
      (dispatch = [] ∨ dispatch = [.markedDispatched]) ∧
      (complete = [] ∨ complete = [.terminalCompleted]) by
    obtain ⟨lease, dispatch, complete, rfl, hlease, hdispatch, hcomplete⟩ := hparts
    unfold lifecycleExpression
    rw [RegularExpression.matches'_mul, Language.mem_mul]
    refine ⟨lease ++ dispatch, ?_, complete, ?_, rfl⟩
    · rw [RegularExpression.matches'_mul, Language.mem_mul]
      exact ⟨lease, hlease, dispatch, hdispatch, rfl⟩
    · exact hcomplete
  cases h with
  | issued =>
    refine ⟨[.issued], [], [], rfl, ?_, .inl rfl, .inl rfl⟩
    exact ⟨[.issued], rfl, [], .inl rfl, rfl⟩
  | leased n => exact ⟨leaseWord n, [], [], by simp, leaseWord_matches n, .inl rfl, .inl rfl⟩
  | dispatched n =>
    exact ⟨leaseWord n, [.markedDispatched], [], by simp, leaseWord_matches n, .inr rfl,
      .inl rfl⟩
  | completed n out =>
    exact ⟨leaseWord n, [.markedDispatched], [.terminalCompleted], rfl, leaseWord_matches n,
      .inr rfl, .inr rfl⟩
  | abandoned n out _ =>
    exact ⟨leaseWord n, [], [.terminalCompleted], by simp, leaseWord_matches n, .inl rfl,
      .inr rfl⟩

theorem LifecycleWord.ne_nil (h : LifecycleWord s o word) : word ≠ [] := by
  cases h <;> simp [leaseWord]

/-- A record is dispatched at most once. -/
theorem LifecycleWord.count_markedDispatched_le
    (h : LifecycleWord s o word) : word.count .markedDispatched ≤ 1 := by
  cases h <;> simp [leaseWord, List.count_replicate]

theorem LifecycleWord.dispatched_of_outcome {o : TerminalOutcome} {word : List EventType}
    (h : LifecycleWord s (some o) word) (ho : o = .succeeded ∨ o = .unknown) :
    ∃ before, word = before ++ [.terminalCompleted] ∧ .markedDispatched ∈ before := by
  cases h with
  | completed n => exact ⟨leaseWord n ++ [.markedDispatched], rfl, by simp⟩
  | abandoned n _ hfail => rcases ho with rfl | rfl <;> simp at hfail

variable (sha : Sha256)

/-- A transition keeps the identity, raises the version by one, makes a move of the state and
writes one receipt. -/
def AuthorityStep (current updated : AuthorityRecord) (event : EventReceipt) :
    Prop :=
  ∃ (base : AuthorityRecord) (eventType : EventType) (payload : Dict),
    (updated, event) = withEvent sha base eventType payload ∧
    base.toIssueRequest = current.toIssueRequest ∧
    base.schemaVersion = current.schemaVersion ∧
    base.version = current.version + 1 ∧
    base.eventSequence = current.eventSequence ∧
    base.latestEventDigest = current.latestEventDigest ∧
    (LifecycleMove current.state eventType base.state base.terminalOutcome ∨
      base.terminalOutcome = current.terminalOutcome ∧
        LifecycleMove current.state eventType base.state none)

theorem AuthorityStep.identity {sha : Sha256} (h : AuthorityStep sha current updated event) :
    updated.toIssueRequest = current.toIssueRequest := by
  obtain ⟨base, _, _, hevent, hrequest, -⟩ := h
  rw [(Prod.mk.inj hevent).1]
  exact hrequest

theorem AuthorityStep.event_authorityId {sha : Sha256}
    (h : AuthorityStep sha current updated event) : event.authorityId = updated.authorityId := by
  obtain ⟨base, _, _, hevent, -⟩ := h
  obtain ⟨rfl, rfl⟩ := Prod.mk.inj hevent
  rfl

section

variable {sha : Sha256} {current updated : AuthorityRecord} {event : EventReceipt}
  {expectedVersion leaseSeconds : Int} {leaseId outcome : String} {result : Json}
  {now : Reading}

theorem leaseTransition_step
    (h : leaseTransition sha current expectedVersion leaseId leaseSeconds now =
      .ok (updated, event)) : AuthorityStep sha current updated event := by
  obtain ⟨t, expiresAt, -, -, hstate, -, -, hevent⟩ := leaseTransition_ok h
  refine ⟨_, _, _, hevent, rfl, rfl, rfl, rfl, rfl, .inr ⟨rfl, ?_⟩⟩
  rcases hstate with hissued | ⟨hleased, -⟩
  · simpa [hissued] using LifecycleMove.lease
  · simpa [hleased] using LifecycleMove.reclaim

theorem dispatchTransition_step
    (h : dispatchTransition sha current expectedVersion leaseId now = .ok (updated, event)) :
    AuthorityStep sha current updated event := by
  obtain ⟨t, deadline, -, -, hleased, -, -, -, hevent⟩ := dispatchTransition_ok h
  refine ⟨_, _, _, hevent, rfl, rfl, rfl, rfl, rfl, .inr ⟨rfl, ?_⟩⟩
  rw [hleased]
  exact .dispatch

theorem terminalTransition_step
    (h : terminalTransition sha current expectedVersion leaseId outcome result now =
      .ok (updated, event)) : AuthorityStep sha current updated event := by
  obtain ⟨t, o, -, -, -, hstate, -, -, hevent⟩ := terminalTransition_ok h
  refine ⟨_, _, _, hevent, rfl, rfl, rfl, rfl, rfl, .inl ?_⟩
  rcases hstate with hdispatched | ⟨hleased, ho⟩
  · rw [hdispatched]
    exact .complete o
  · rw [hleased]
    exact .abandon o ho

end

def ReceiptBound (record : AuthorityRecord) (event : EventReceipt) : Prop :=
  event.schemaVersion = authorityEventVersion ∧
    event.authorityId = record.authorityId ∧
    event.actionBindingDigest = record.actionBindingDigest ∧
    event.eventDigest = canonicalDigest sha (.obj event.toEventBody.toDict) ∧
    event.eventId = eventIdOf event.eventDigest

/-- A record together with all the receipts written for it. -/
structure RecordHistory (record : AuthorityRecord)
    (events : List EventReceipt) : Prop where
  valid : validateRecordBinding sha record.toDict = .ok ()
  version_eq : record.version = events.length
  eventSequence_eq : record.eventSequence = events.length
  sequences : events.map (·.sequence) = List.range' 1 events.length
  stateVersions : events.map (·.stateVersion) = List.range' 1 events.length
  receipts : ∀ event ∈ events, ReceiptBound sha record event
  linked : HashChain.Linked (·.previousEventDigest) (·.eventDigest) genesisDigest events
    record.latestEventDigest
  word : LifecycleWord record.state record.terminalOutcome (events.map (·.eventType))

namespace RecordHistory

variable {sha : Sha256} {record current updated : AuthorityRecord}
  {event : EventReceipt} {events : List EventReceipt}

theorem ne_nil (h : RecordHistory sha record events) : events ≠ [] := by
  intro hnil
  exact h.word.ne_nil (by simp [hnil])

theorem latestEventDigest_ne_empty (h : RecordHistory sha record events) :
    record.latestEventDigest ≠ "" := by
  obtain ⟨before, last, rfl⟩ := List.eq_nil_or_concat events |>.resolve_left h.ne_nil
  have hlinked := h.linked
  rw [List.concat_eq_append, HashChain.linked_concat] at hlinked
  obtain ⟨-, -, -, hdigest, -⟩ := h.receipts last (by simp)
  rw [← hlinked.2, hdigest]
  exact canonicalDigest_ne_empty sha _

theorem issue {request : IssueRequest} {now : Reading}
    (hbinding : isNonemptyObject request.actionBinding = true)
    (hdigest : request.actionBindingDigest = canonicalDigest sha request.actionBinding)
    (h : newIssue sha request now = .ok (record, event)) : RecordHistory sha record [event] := by
  obtain ⟨base, rfl, hschema, hstate, hversion, hsequence, hlatest, houtcome, -, -, hevent⟩ :=
    newIssue_ok h
  obtain ⟨rfl, rfl⟩ := Prod.mk.inj hevent
  have hgenesis : genesisDigest ≠ "" := by decide
  constructor
  · exact validateRecordBinding_ok_iff.mpr ⟨hschema, hbinding, hdigest⟩
  · simpa using hversion
  · simp [eventBody, hsequence]
  · simp [eventBody, hsequence]
  · simp [eventBody, hversion]
  · simp [eventBody, ReceiptBound]
  · simp [eventBody, hlatest, hgenesis]
  · simp only [hstate, houtcome]
    exact .issued

theorem step (hhistory : RecordHistory sha current events)
    (hstep : AuthorityStep sha current updated event) :
    RecordHistory sha updated (events ++ [event]) := by
  obtain ⟨base, eventType, payload, hevent, hrequest, hschema, hversion, hsequence, hlatest,
    hmove⟩ := hstep
  obtain ⟨rfl, rfl⟩ := Prod.mk.inj hevent
  have hprevious : base.latestEventDigest ≠ "" := by
    rw [hlatest]
    exact hhistory.latestEventDigest_ne_empty
  have hvalid := validateRecordBinding_ok_iff.mp hhistory.valid
  have hlen : base.eventSequence = events.length := hsequence.trans hhistory.eventSequence_eq
  have hvlen : base.version = events.length + 1 := by
    rw [hversion, hhistory.version_eq]
  have hbinding : base.actionBindingDigest = current.actionBindingDigest := by rw [hrequest]
  have hid : base.authorityId = current.authorityId := by rw [hrequest]
  constructor
  · refine validateRecordBinding_ok_iff.mpr ?_
    simpa [hschema, hrequest] using hvalid
  · simpa using hvlen
  · simp [eventBody, hlen]
  · simp [hhistory.sequences, eventBody, hlen, List.range'_concat, Nat.add_comm]
  · simp [hhistory.stateVersions, eventBody, hvlen, List.range'_concat, Nat.add_comm]
  · intro receipt hreceipt
    rcases List.mem_append.mp hreceipt with hold | hnew
    · obtain ⟨hs, ha, hb, hd⟩ := hhistory.receipts receipt hold
      exact ⟨hs, ha.trans hid.symm, hb.trans hbinding.symm, hd⟩
    · rw [List.mem_singleton.mp hnew]
      exact ⟨rfl, rfl, rfl, rfl, rfl⟩
  · rw [HashChain.linked_concat]
    refine ⟨?_, rfl⟩
    have hbefore : (eventBody base eventType payload).previousEventDigest =
        current.latestEventDigest := (if_neg hprevious).trans hlatest
    rw [hbefore]
    exact hhistory.linked
  · simp only [List.map_append, List.map_cons, List.map_nil]
    rcases hmove with hmove | ⟨houtcome, hmove⟩
    · exact hhistory.word.move hmove
    · rw [houtcome, hhistory.word.outcome_eq_none hmove]
      exact hhistory.word.move hmove

theorem checkReceipt_of_receipt {n : Nat} {previous : String}
    (hreceipt : ReceiptBound sha record event)
    (hsequence : event.sequence = n) (hversion : event.stateVersion = n)
    (hprevious : event.previousEventDigest = previous) :
    checkReceipt sha record.toDict n previous (.obj event.toDict) = .ok event.eventDigest := by
  obtain ⟨hschema, hid, hbinding, hdigest, -⟩ := hreceipt
  have hbody : hashedPart event.toDict = event.toEventBody.toDict := by
    simp [hashedPart, Dict.pop_cons, EventReceipt.toDict, EventBody.toDict]
  have hrecordId : Dict.get? record.toDict "authority_id" = some (.str record.authorityId) := by
    simp [AuthorityRecord.toDict, Dict.get?_cons]
  have hrecordBinding : Dict.get? record.toDict "action_binding_digest" =
      some (.str record.actionBindingDigest) := by
    simp [AuthorityRecord.toDict, Dict.get?_cons]
  unfold checkReceipt
  simp only [fieldDiffers, hbody, hrecordId, hrecordBinding, ← hdigest]
  simp [EventReceipt.toDict, EventBody.toDict, Dict.get?_cons, hschema, hid, hbinding,
    hsequence, hversion, hprevious, Json.pyEqOpt, rejectIf, Json.asStr, bind, Except.bind,
    pure, Except.pure]

theorem checkReceipts_of_linked {last : String} :
    ∀ {events : List EventReceipt} {n : Nat} {previous : String},
      (∀ event ∈ events, ReceiptBound sha record event) →
      events.map (·.sequence) = List.range' n events.length →
      events.map (·.stateVersion) = List.range' n events.length →
      HashChain.Linked (·.previousEventDigest) (·.eventDigest) previous events last →
      checkReceipts sha record.toDict n previous (events.map fun event => .obj event.toDict) =
        .ok last := by
  intro events
  induction events with
  | nil =>
    intro n previous _ _ _ hlinked
    have hlast : previous = last := hlinked
    simp [checkReceipts, hlast]
  | cons event rest ih =>
    intro n previous hreceipts hsequences hversions hlinked
    simp only [List.map_cons, List.length_cons, List.range'_succ, List.cons.injEq]
      at hsequences hversions
    have hevent := checkReceipt_of_receipt (hreceipts event (by simp)) hsequences.1
      hversions.1 hlinked.1
    have hrest := ih (fun e he => hreceipts e (by simp [he])) hsequences.2 hversions.2
      hlinked.2
    simp only [List.map_cons, checkReceipts, hevent]
    exact hrest

theorem lastStateVersion_eq (h : RecordHistory sha record events) :
    lastStateVersion (events.map fun event => .obj event.toDict) =
      some (.int record.version) := by
  have hlast := congrArg List.getLast? h.stateVersions
  obtain ⟨before, last, rfl⟩ := List.eq_nil_or_concat events |>.resolve_left h.ne_nil
  have hlastVersion : last.stateVersion = record.version := by
    simpa [h.version_eq, List.getLast?_range', Nat.add_comm] using hlast
  simp [lastStateVersion, Json.asObj?, EventReceipt.toDict, EventBody.toDict,
    Dict.get?_cons, hlastVersion]

theorem reconciles (h : RecordHistory sha record events) :
    reconciliationPayload sha record.toDict (receiptsJson (some events)) =
      .ok (reconciledView record.toDict (events.map fun event => .obj event.toDict)) := by
  have hloop := checkReceipts_of_linked h.receipts h.sequences h.stateVersions h.linked
  have hversion := h.lastStateVersion_eq
  obtain ⟨first, rest, rfl⟩ := List.exists_cons_of_ne_nil h.ne_nil
  unfold reconciliationPayload
  rw [h.valid]
  simp only [receiptsJson, List.map_cons] at hloop hversion ⊢
  simp only [hloop, hversion]
  simp [fieldDiffers, AuthorityRecord.toDict, Dict.get?_cons, h.eventSequence_eq,
    Json.pyEqOpt, rejectIf, bind, Except.bind, pure, Except.pure]

end RecordHistory

variable (root : AuthorityRoot)

structure StoreInvariant : Prop where
  records : ∀ id record, root.records[id]? = some record →
    record.authorityId = id ∧ isBlank id = false ∧
      ∃ events, root.events[id]? = some events ∧ RecordHistory sha record events
  events : ∀ (id : String) events, root.events[id]? = some events →
    ∃ record, root.records[id]? = some record
  idempotency : IndexOf root.idempotency root.records (·.idempotencyKey)
  nonces : IndexOf root.nonces root.records (·.nonce)

/-- What a call can do to the store: nothing, issue one record under unused
keys, or advance one record. -/
inductive RootStep (sha : Sha256) (root : AuthorityRoot) : AuthorityRoot → Prop
  | stay : RootStep sha root root
  | issue {request : IssueRequest} {now : Reading} {record : AuthorityRecord}
      {event : EventReceipt} (hissue : newIssue sha request now = .ok (record, event))
      (hblank : isBlank request.authorityId = false)
      (hbinding : isNonemptyObject request.actionBinding = true)
      (hdigest : request.actionBindingDigest = canonicalDigest sha request.actionBinding)
      (hid : root.records[request.authorityId]? = none)
      (hkey : root.idempotency[request.idempotencyKey]? = none)
      (hnonce : root.nonces[request.nonce]? = none) :
      RootStep sha root
        { records := root.records.insert request.authorityId record
          idempotency := root.idempotency.insert request.idempotencyKey request.authorityId
          nonces := root.nonces.insert request.nonce request.authorityId
          events := root.events.insert request.authorityId [event] }
  | advance {current updated : AuthorityRecord} {event : EventReceipt}
      {events : List EventReceipt}
      (hcurrent : root.records[updated.authorityId]? = some current)
      (hevents : root.events[updated.authorityId]? = some events)
      (hstep : AuthorityStep sha current updated event) :
      RootStep sha root
        { root with
          events := root.events.insert updated.authorityId (events ++ [event])
          records := root.records.insert updated.authorityId updated }

namespace StoreInvariant

variable {sha : Sha256} {root root' : AuthorityRoot} {record : AuthorityRecord}

theorem empty (sha : Sha256) : StoreInvariant sha .empty := by
  constructor
  · intro id record h
    simp [AuthorityRoot.empty] at h
  · intro id events h
    simp [AuthorityRoot.empty] at h
  · intro k id
    simp [AuthorityRoot.empty]
  · intro k id
    simp [AuthorityRoot.empty]

theorem unused_of_existing_none (hinv : StoreInvariant sha root) {request : IssueRequest}
    (h : existingAuthorityId root request = none) :
    root.idempotency[request.idempotencyKey]? = none ∧
      root.records[request.authorityId]? = none := by
  unfold existingAuthorityId existingAuthorityId.byAuthorityId at h
  split at h
  · next owner howner =>
    split at h
    · -- no record has the empty authority id
      next hempty =>
        obtain ⟨record, hrecord, -⟩ := (hinv.idempotency _ _).mp howner
        obtain ⟨-, hblank, -⟩ := hinv.records _ _ hrecord
        rw [hempty] at hblank
        exact absurd hblank (by decide)
    · cases h
  · next hnone => exact ⟨hnone, by simpa using h⟩

theorem issueOrGet (hinv : StoreInvariant sha root)
    {authorityId idempotencyKey nonce : String} {actionBinding : Json} {now : Reading}
    (h : fileIssueOrGet sha root authorityId idempotencyKey nonce actionBinding now =
      .ok (record, root')) : RootStep sha root root' := by
  obtain ⟨request, hrequest, hcases⟩ := fileIssueOrGet_ok h
  obtain ⟨rfl, hblank, -, hbinding⟩ := validatedIssueRequest_ok hrequest
  rcases hcases with ⟨_, -, -, -, rfl⟩ | ⟨hnone, hnonce, event, hissue, rfl⟩
  · exact .stay
  · obtain ⟨hkey, hid⟩ := hinv.unused_of_existing_none hnone
    exact .issue hissue hblank hbinding rfl hid hkey hnonce

theorem transition (hinv : StoreInvariant sha root) {authorityId : String}
    {f : AuthorityRecord → Except PyError (AuthorityRecord × EventReceipt)}
    (hstep : ∀ current updated event, f current = .ok (updated, event) →
      AuthorityStep sha current updated event)
    (h : fileTransition sha root authorityId f = .ok (record, root')) :
    RootStep sha root root' := by
  obtain ⟨current, event, events, hcurrent, hf, hevents, rfl⟩ := fileTransition_ok h
  obtain ⟨hfound, -, -⟩ := requiredRecord_ok hcurrent
  obtain ⟨hid, -⟩ := hinv.records _ _ hfound
  have hmove := hstep current record event hf
  have hrecordId : record.authorityId = authorityId := by
    rw [hmove.identity]
    exact hid
  exact .advance (by rw [hrecordId]; exact hfound) hevents hmove

theorem answerRecord_ok {σ : Type} {x : Except PyError (AuthorityRecord × σ)}
    {answer : AuthorityAnswer} {state : σ} (h : answerRecord x = .ok (answer, state)) :
    ∃ record, x = .ok (record, state) ∧ answer = .record record := by
  cases x with
  | error e => cases h
  | ok pair =>
    obtain ⟨record, state'⟩ := pair
    obtain ⟨rfl, rfl⟩ := Prod.mk.inj (Except.ok.inj h)
    exact ⟨record, rfl, rfl⟩

theorem fileNext_step (hinv : StoreInvariant sha root) (call : AuthorityCall) :
    RootStep sha root (fileNext sha root call) := by
  unfold fileNext
  split
  · next answer root' hcall =>
    cases call with
    | issueOrGet =>
      obtain ⟨record, hok, -⟩ := answerRecord_ok hcall
      exact hinv.issueOrGet hok
    | leaseForDispatch =>
      obtain ⟨record, hok, -⟩ := answerRecord_ok hcall
      exact hinv.transition (fun _ _ _ => leaseTransition_step) hok
    | markDispatched =>
      obtain ⟨record, hok, -⟩ := answerRecord_ok hcall
      exact hinv.transition (fun _ _ _ => dispatchTransition_step) hok
    | completeTerminal =>
      obtain ⟨record, hok, -⟩ := answerRecord_ok hcall
      exact hinv.transition (fun _ _ _ => terminalTransition_step) hok
    | readForReconciliation id =>
      simp only [fileCall] at hcall
      cases hread : fileReadForReconciliation sha root id with
      | error e => simp [hread, Except.map] at hcall
      | ok view =>
        rw [hread] at hcall
        obtain ⟨-, rfl⟩ := Prod.mk.inj (Except.ok.inj hcall)
        exact .stay
  · exact .stay

theorem step (hinv : StoreInvariant sha root) (hstep : RootStep sha root root') :
    StoreInvariant sha root' := by
  cases hstep with
  | stay => exact hinv
  | @issue request now record event hissue hblank hbinding hdigest hid hkey hnonce =>
    have hidentity := newIssue_identity hissue
    constructor
    · intro id other hother
      simp only [Table.get_insert] at hother ⊢
      by_cases heq : id = request.authorityId
      · subst heq
        rw [if_pos rfl] at hother ⊢
        rw [← Option.some.inj hother]
        exact ⟨by rw [hidentity], hblank, [event], rfl, .issue hbinding hdigest hissue⟩
      · rw [if_neg heq] at hother ⊢
        exact hinv.records id other hother
    · intro id events hevents
      simp only [Table.get_insert] at hevents ⊢
      by_cases heq : id = request.authorityId
      · exact ⟨record, if_pos heq⟩
      · rw [if_neg heq] at hevents ⊢
        exact hinv.events id events hevents
    · have hindex := hinv.idempotency.insert_new record hid (by rw [hidentity]; exact hkey)
      rw [hidentity] at hindex
      exact hindex
    · have hindex := hinv.nonces.insert_new record hid (by rw [hidentity]; exact hnonce)
      rw [hidentity] at hindex
      exact hindex
  | @advance current updated event events hcurrent hevents hmove =>
    obtain ⟨-, hblank, stored, hstored, hhistory⟩ := hinv.records _ _ hcurrent
    have hsame : stored = events := Option.some.inj (hstored.symm.trans hevents)
    subst hsame
    constructor
    · intro id other hother
      simp only [Table.get_insert] at hother ⊢
      by_cases heq : id = updated.authorityId
      · rw [if_pos heq] at hother ⊢
        rw [← Option.some.inj hother, heq]
        exact ⟨rfl, hblank, _, rfl, hhistory.step hmove⟩
      · rw [if_neg heq] at hother ⊢
        exact hinv.records id other hother
    · intro id events' hevents'
      simp only [Table.get_insert] at hevents' ⊢
      by_cases heq : id = updated.authorityId
      · exact ⟨updated, if_pos heq⟩
      · rw [if_neg heq] at hevents' ⊢
        exact hinv.events id events' hevents'
    · exact hinv.idempotency.replace hcurrent (by rw [hmove.identity])
    · exact hinv.nonces.replace hcurrent (by rw [hmove.identity])

theorem next (hinv : StoreInvariant sha root) (call : AuthorityCall) :
    StoreInvariant sha (fileNext sha root call) :=
  hinv.step (hinv.fileNext_step call)

theorem run (sha : Sha256) (calls : List AuthorityCall) :
    StoreInvariant sha (fileRun sha .empty calls) := by
  suffices h : ∀ root, StoreInvariant sha root → StoreInvariant sha (fileRun sha root calls) from
    h _ (.empty sha)
  induction calls with
  | nil => exact fun root hroot => hroot
  | cons call rest ih => exact fun root hroot => ih _ (hroot.next call)

variable {id : String}

theorem log_none (hinv : StoreInvariant sha root) (h : root.records[id]? = none) :
    root.events[id]? = none := by
  cases hevents : root.events[id]? with
  | none => rfl
  | some events =>
    obtain ⟨record, hrecord⟩ := hinv.events _ _ hevents
    rw [h] at hrecord
    cases hrecord

theorem log_grows (hinv : StoreInvariant sha root) (hstep : RootStep sha root root')
    {events : List EventReceipt} (h : root.events[id]? = some events) :
    ∃ new, root'.events[id]? = some (events ++ new) := by
  cases hstep with
  | stay => exact ⟨[], by simpa using h⟩
  | @issue request _ _ event _ _ _ _ hid =>
    have hne : id ≠ request.authorityId := by
      rintro rfl
      rw [hinv.log_none hid] at h
      cases h
    exact ⟨[], by simpa [Table.get_insert_of_ne _ _ hne] using h⟩
  | @advance current updated event stored _ hstored =>
    by_cases heq : id = updated.authorityId
    · subst heq
      rw [hstored] at h
      refine ⟨[event], ?_⟩
      rw [← Option.some.inj h]
      simp
    · exact ⟨[], by simpa [Table.get_insert_of_ne _ _ heq] using h⟩

theorem read (hinv : StoreInvariant sha root) (id : String) :
    ∃ view, fileReadForReconciliation sha root id = .ok view := by
  unfold fileReadForReconciliation
  split
  · exact ⟨none, rfl⟩
  · next record hrecord =>
    obtain ⟨-, -, events, hevents, hhistory⟩ := hinv.records id record hrecord
    rw [hevents, hhistory.reconciles]
    exact ⟨_, rfl⟩

end StoreInvariant

def storedReceipts : List EventReceipt :=
  root.events.toList.flatMap (·.2)

theorem mem_storedReceipts {root : AuthorityRoot} :
    event ∈ storedReceipts root ↔
      ∃ (id : String) (events : List EventReceipt), root.events[id]? = some events ∧
        event ∈ events := by
  unfold storedReceipts
  simp only [List.mem_flatMap, Prod.exists, Std.ExtTreeMap.mem_toList_iff_getElem?_eq_some]

theorem storedReceipts_run {sha : Sha256} (calls : List AuthorityCall) :
    ∀ {root : AuthorityRoot}, StoreInvariant sha root → event ∈ storedReceipts root →
      event ∈ storedReceipts (fileRun sha root calls) := by
  induction calls with
  | nil => exact fun _ h => h
  | cons call rest ih =>
    intro root hinv hevent
    obtain ⟨id, events, hevents, hmem⟩ := mem_storedReceipts.mp hevent
    obtain ⟨new, hnew⟩ := hinv.log_grows (hinv.fileNext_step call) hevents
    refine ih (hinv.next call) (mem_storedReceipts.mpr ⟨id, _, hnew, ?_⟩)
    exact List.mem_append_left _ hmem

def ReceiptsCollisionFree : Prop :=
  ∀ e ∈ storedReceipts root, ∀ e' ∈ storedReceipts root, e.eventDigest = e'.eventDigest →
    (Json.obj e.toEventBody.toDict).canon = (Json.obj e'.toEventBody.toDict).canon

instance (root : AuthorityRoot) : Decidable (ReceiptsCollisionFree root) :=
  inferInstanceAs (Decidable (∀ e ∈ storedReceipts root, ∀ e' ∈ storedReceipts root, _ → _))

theorem place_of_eventDigest {root : AuthorityRoot}
    (hfree : ReceiptsCollisionFree root) {e e' : EventReceipt}
    (he : e ∈ storedReceipts root) (he' : e' ∈ storedReceipts root)
    (h : e.eventDigest = e'.eventDigest) :
    e.authorityId = e'.authorityId ∧ e.sequence = e'.sequence := by
  have hcanon := hfree e he e' he' h
  have hid := Json.get?_eq_of_canon_eq hcanon "authority_id"
  have hsequence := Json.get?_eq_of_canon_eq hcanon "sequence"
  constructor
  · simpa [EventBody.toDict, Dict.get?_cons, Json.canon] using hid
  · have hint : (e.sequence : Int) = e'.sequence := by
      simpa [EventBody.toDict, Dict.get?_cons, Json.canon] using hsequence
    exact_mod_cast hint

/-- **Authority store invariant.**  After any sequence of calls, failing ones included, the store
is in order. -/
theorem authority_store_invariant (calls : List AuthorityCall) :
    let root := fileRun sha .empty calls
    (∀ (id : String) (record : AuthorityRecord), root.records[id]? = some record →
      ∃ events, root.events[id]? = some events ∧
      record.version = events.length ∧ record.eventSequence = events.length ∧
      events.map (·.sequence) = List.range' 1 events.length ∧
      (∀ event ∈ events,
        event.eventDigest = canonicalDigest sha (.obj event.toEventBody.toDict)) ∧
      HashChain.Linked (·.previousEventDigest) (·.eventDigest) genesisDigest events
        record.latestEventDigest ∧
      events.map (·.eventType) ∈ lifecycleExpression.matches' ∧
      (events.map (·.eventType)).count .markedDispatched ≤ 1 ∧
      (∀ o, record.terminalOutcome = some o → o = .succeeded ∨ o = .unknown →
        ∃ before, events.map (·.eventType) = before ++ [.terminalCompleted] ∧
          .markedDispatched ∈ before)) ∧
    (IndexOf root.idempotency root.records (·.idempotencyKey) ∧
      ∀ k k' id : String,
        root.idempotency[k]? = some id → root.idempotency[k']? = some id → k = k') ∧
    (IndexOf root.nonces root.records (·.nonce) ∧
      ∀ n n' id : String, root.nonces[n]? = some id → root.nonces[n']? = some id → n = n') ∧
    ∀ id, ∃ view, fileReadForReconciliation sha root id = .ok view := by
  intro root
  have hinv : StoreInvariant sha root := .run sha calls
  refine ⟨?_, ⟨hinv.idempotency, fun _ _ _ => hinv.idempotency.injective⟩,
    ⟨hinv.nonces, fun _ _ _ => hinv.nonces.injective⟩, hinv.read⟩
  intro id record hrecord
  obtain ⟨-, -, events, hevents, hhistory⟩ := hinv.records id record hrecord
  refine ⟨events, hevents, hhistory.version_eq, hhistory.eventSequence_eq, hhistory.sequences,
    fun event hevent => (hhistory.receipts event hevent).2.2.2.1, hhistory.linked,
    hhistory.word.matches_expression, hhistory.word.count_markedDispatched_le, ?_⟩
  intro o ho houtcome
  have hword := hhistory.word
  rw [ho] at hword
  exact hword.dispatched_of_outcome houtcome

end OrbitalMesh
