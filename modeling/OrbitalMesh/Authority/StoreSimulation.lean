import OrbitalMesh.Authority.PostgresStore
import OrbitalMesh.Authority.StoreInvariant

/-!
# A simulation between the two authority stores

The simulation relation (`Refines`) says that the file store and the Postgres store
hold the same records and receipts, up to the order of members.

The file store asks three tables in turn for conflicts, the Postgres store takes an
arbitrary row of one disjunctive query.  Since a record answers to exactly one
authority id, one idempotency key and one nonce, the two answer alike, whichever
row is returned (`issueOrGet_agrees`).
-/

namespace OrbitalMesh

def SameRecord (r r' : AuthorityRecord) : Prop :=
  ∃ binding result, r' = { r with actionBinding := binding, terminalResult := result } ∧
    binding.canon = r.actionBinding.canon ∧
    result.map Json.canon = r.terminalResult.map Json.canon

theorem SameRecord.refl (r : AuthorityRecord) : SameRecord r r :=
  ⟨r.actionBinding, r.terminalResult, rfl, rfl, rfl⟩

theorem SameRecord.decoded {r r' : AuthorityRecord} (h : SameRecord r r')
    (server : PostgresServer) : SameRecord r (server.decodedRecord r') := by
  obtain ⟨binding, result, rfl, hbinding, hresult⟩ := h
  refine ⟨server.jsonb binding, result.map server.jsonb, rfl, ?_, ?_⟩
  · rw [server.jsonb_canon, hbinding]
  · rw [← hresult, Option.map_map]
    exact congrArg (Option.map · result) (funext server.jsonb_canon)

variable {sha : Sha256} {a b : Json} {db : Database} {event : EventReceipt}

theorem canonicalDigest_congr (h : a.canon = b.canon) :
    canonicalDigest sha a = canonicalDigest sha b := by
  unfold canonicalDigest
  rw [h]

private theorem isNonemptyObject_canon (a : Json) :
    isNonemptyObject a.canon = isNonemptyObject a := by
  cases a with
  | obj members =>
    cases members with
    | nil => rfl
    | cons member rest =>
      rw [Json.canon, Json.canonMembers]
      cases Json.canonMembers rest with
      | nil => rfl
      | cons first others =>
        rw [Json.insertMember]
        split <;> rfl
  | _ => rfl

section

variable {sha : Sha256} {r r' : AuthorityRecord}

theorem validateRecordBinding_same (h : SameRecord r r') :
    validateRecordBinding sha r'.toDict = validateRecordBinding sha r.toDict := by
  obtain ⟨binding, result, rfl, hbinding, -⟩ := h
  have hobject : isNonemptyObject binding = isNonemptyObject r.actionBinding := by
    rw [← isNonemptyObject_canon binding, hbinding, isNonemptyObject_canon]
  have hdigest : canonicalDigest sha binding = canonicalDigest sha r.actionBinding :=
    canonicalDigest_congr hbinding
  simp [validateRecordBinding, AuthorityRecord.toDict, Dict.get?_cons, hobject, hdigest]

theorem requireTransition_same (h : SameRecord r r') (expectedVersion : Int)
    (states : List AuthorityState) :
    requireTransition sha r' expectedVersion states =
      requireTransition sha r expectedVersion states := by
  unfold requireTransition
  rw [validateRecordBinding_same h]
  obtain ⟨binding, result, rfl, -, -⟩ := h
  rfl

theorem requireSameIssue_same (h : SameRecord r r') (request : IssueRequest) :
    requireSameIssue sha r' request = requireSameIssue sha r request := by
  unfold requireSameIssue
  rw [validateRecordBinding_same h]
  obtain ⟨binding, result, rfl, hbinding, -⟩ := h
  rw [Json.pyEq_congr_canon hbinding]

def SameOutcome (x y : AuthorityRecord × EventReceipt) : Prop :=
  SameRecord x.1 y.1 ∧ x.2 = y.2

theorem leaseTransition_same (h : SameRecord r r') (expectedVersion : Int)
    (leaseId : String) (leaseSeconds : Int) (now : Reading) :
    Agree SameOutcome (leaseTransition sha r expectedVersion leaseId leaseSeconds now)
      (leaseTransition sha r' expectedVersion leaseId leaseSeconds now) := by
  unfold leaseTransition
  rw [requireTransition_same h]
  obtain ⟨binding, result, rfl, hbinding, hresult⟩ := h
  refine .bind_same _ fun _ => .bind_same _ fun _ => .bind_same _ fun _ => ?_
  by_cases hleased : r.state = .leased
  · simp only [hleased, ↓reduceIte]
    exact .bind_same _ fun _ => .bind_same _ fun _ => .bind_same _ fun _ =>
      .ok ⟨⟨binding, result, rfl, hbinding, hresult⟩, rfl⟩
  · simp only [hleased, ↓reduceIte]
    exact .bind_same _ fun _ => .bind_same _ fun _ =>
      .ok ⟨⟨binding, result, rfl, hbinding, hresult⟩, rfl⟩

theorem dispatchTransition_same (h : SameRecord r r') (expectedVersion : Int)
    (leaseId : String) (now : Reading) :
    Agree SameOutcome (dispatchTransition sha r expectedVersion leaseId now)
      (dispatchTransition sha r' expectedVersion leaseId now) := by
  unfold dispatchTransition
  rw [requireTransition_same h]
  obtain ⟨binding, result, rfl, hbinding, hresult⟩ := h
  refine .bind_same _ fun _ => .bind_same _ fun _ => ?_
  cases hexpiry : r.leaseExpiresAt with
  | none => exact .error _ _
  | some deadline =>
    exact .bind_same _ fun _ => .bind_same _ fun _ => .bind_same _ fun _ =>
      .ok ⟨⟨binding, result, rfl, hbinding, hresult⟩, rfl⟩

theorem terminalTransition_same (h : SameRecord r r') (expectedVersion : Int)
    (leaseId outcome : String) (result : Json) (now : Reading) :
    Agree SameOutcome (terminalTransition sha r expectedVersion leaseId outcome result now)
      (terminalTransition sha r' expectedVersion leaseId outcome result now) := by
  unfold terminalTransition
  rw [requireTransition_same h]
  obtain ⟨binding, stored, rfl, hbinding, -⟩ := h
  exact .bind_same _ fun _ => .bind_same _ fun _ => .bind_same _ fun _ => .bind_same _ fun _ =>
    .bind_same _ fun _ => .bind_same _ fun _ =>
      .ok ⟨⟨binding, _, rfl, hbinding, rfl⟩, rfl⟩

end

/-- The columns of a row are those of a record, and its JSON is that record. -/
structure RowOf (record : AuthorityRecord) (row : RecordRow) : Prop where
  authorityId : row.authorityId = record.authorityId
  idempotencyKey : row.idempotencyKey = record.idempotencyKey
  nonce : row.nonce = record.nonce
  state : row.state = record.state
  version : row.version = record.version
  same : SameRecord record row.record

/-- The two stores hold the same records and the same receipts. -/
structure Refines (root : AuthorityRoot) (db : Database) : Prop where
  keys : (db.records.map (·.authorityId)).Nodup
  rows : ∀ row ∈ db.records, ∃ record,
    root.records[row.authorityId]? = some record ∧ RowOf record row
  records : ∀ (id : String) (record : AuthorityRecord), root.records[id]? = some record →
    ∃ row ∈ db.records, row.authorityId = id
  events : ∀ id : String, (db.events.filter fun row => row.authorityId == id) =
    (root.events[id]?.getD []).map eventRow

namespace Refines

variable {sha : Sha256} {root : AuthorityRoot} {db : Database} {server : PostgresServer}

theorem empty : Refines .empty .empty := by
  constructor
  · simp [Database.empty]
  · simp [Database.empty]
  · simp [AuthorityRoot.empty]
  · simp [AuthorityRoot.empty, Database.empty]

section

variable (h : Refines root db)

include h

theorem row_unique {row row' : RecordRow} (hrow : row ∈ db.records)
    (hrow' : row' ∈ db.records) (heq : row.authorityId = row'.authorityId) : row = row' :=
  List.inj_on_of_nodup_map h.keys hrow hrow' heq

variable {id : String} {record : AuthorityRecord}

theorem row_of_record (hrecord : root.records[id]? = some record) :
    ∃ row ∈ db.records, row.authorityId = id ∧ RowOf record row := by
  obtain ⟨row, hrow, rfl⟩ := h.records id record hrecord
  obtain ⟨record', hrecord', hof⟩ := h.rows row hrow
  rw [hrecord] at hrecord'
  rw [← Option.some.inj hrecord'] at hof
  exact ⟨row, hrow, rfl, hof⟩

theorem fetch_some (server : PostgresServer) (hrecord : root.records[id]? = some record) :
    ∃ row ∈ db.records, row.authorityId = id ∧ RowOf record row ∧
      server.fetchone (db.records.filter fun row => row.authorityId == id) = some row := by
  obtain ⟨row, hrow, hid, hof⟩ := h.row_of_record hrecord
  refine ⟨row, hrow, hid, hof, ?_⟩
  cases hfetch : server.fetchone (db.records.filter fun row => row.authorityId == id) with
  | none =>
    have hempty := server.fetchone_none _ hfetch
    have hmem : row ∈ db.records.filter fun row => row.authorityId == id := by
      simp [hrow, hid]
    rw [hempty] at hmem
    cases hmem
  | some found =>
    have hfound := server.fetchone_mem _ _ hfetch
    simp only [List.mem_filter, beq_iff_eq] at hfound
    rw [h.row_unique hfound.1 hrow (hfound.2.trans hid.symm)]

theorem fetch_none (hnone : root.records[id]? = none) :
    server.fetchone (db.records.filter fun row => row.authorityId == id) = none := by
  cases hfetch : server.fetchone (db.records.filter fun row => row.authorityId == id) with
  | none => rfl
  | some row =>
    have hmem := server.fetchone_mem _ _ hfetch
    simp only [List.mem_filter, beq_iff_eq] at hmem
    obtain ⟨record, hrecord, -⟩ := h.rows row hmem.1
    rw [hmem.2, hnone] at hrecord
    cases hrecord

theorem event_row {row : EventRow} (hrow : row ∈ db.events) :
    ∃ events, root.events[row.authorityId]? = some events ∧
      ∃ event ∈ events, row = eventRow event := by
  have hmem : row ∈ db.events.filter fun other => other.authorityId == row.authorityId := by
    simp [hrow]
  rw [h.events, List.mem_map] at hmem
  obtain ⟨event, hevent, heq⟩ := hmem
  cases hevents : root.events[row.authorityId]? with
  | none => simp [hevents] at hevent
  | some events => exact ⟨events, rfl, event, by simpa [hevents] using hevent, heq.symm⟩

end

end Refines

theorem appendEvent_ok (hsequence : event.sequence ≠ 0) (hversion : event.stateVersion ≠ 0)
    (hrow : ∃ row ∈ db.records, row.authorityId = event.authorityId)
    (hplace : ∀ row ∈ db.events,
      ¬ (row.authorityId = event.authorityId ∧ row.sequence = event.sequence))
    (hid : ∀ row ∈ db.events, row.eventId ≠ event.eventId)
    (hdigest : ∀ row ∈ db.events, row.eventDigest ≠ event.eventDigest) :
    appendEvent db event = .ok { db with events := db.events ++ [eventRow event] } := by
  have hfkey : (db.records.any fun other => other.authorityId == event.authorityId) = true := by
    simpa using hrow
  have hpkey : (db.events.any fun other => other.authorityId == event.authorityId &&
      other.sequence == event.sequence) = false := by
    simpa using hplace
  have hidkey : (db.events.any fun other => other.eventId == event.eventId) = false := by
    simpa using hid
  have hdigestkey : (db.events.any fun other => other.eventDigest == event.eventDigest) =
      false := by
    simpa using hdigest
  simp [appendEvent, constraintViolation, eventRow, hsequence, hversion, hfkey, hpkey, hidkey,
    hdigestkey, rejectIf, bind, Except.bind, pure, Except.pure]

private theorem eventIdOf_injective
    (h : eventIdOf (canonicalDigest sha a) = eventIdOf (canonicalDigest sha b)) :
    canonicalDigest sha a = canonicalDigest sha b := by
  have hhex := (String.append_right_inj _).mp h
  unfold canonicalDigest at hhex ⊢
  rw [digestHex_append, digestHex_append] at hhex
  rw [hhex]

theorem appendEvent_of_step {root root' : AuthorityRoot} {db' : Database}
    (old : List EventReceipt) (hinv : StoreInvariant sha root) (hstep : RootStep sha root root')
    (href : Refines root db) (hevents : db'.events = db.events)
    (hrow : ∃ row ∈ db'.records, row.authorityId = event.authorityId)
    (hold : root.events[event.authorityId]?.getD [] = old)
    (hnew : root'.events[event.authorityId]? = some (old ++ [event]))
    (hfree : ReceiptsCollisionFree root') :
    appendEvent db' event = .ok { db' with events := db'.events ++ [eventRow event] } := by
  have hinv' := hinv.step hstep
  obtain ⟨record', hrecord'⟩ := hinv'.events _ _ hnew
  obtain ⟨-, -, events', hevents', hhistory'⟩ := hinv'.records _ _ hrecord'
  have hsame : events' = old ++ [event] := Option.some.inj (hevents'.symm.trans hnew)
  subst hsame
  have hsequence : event.sequence = old.length + 1 := by
    have h := congrArg List.getLast? hhistory'.sequences
    simpa [List.getLast?_range', Nat.add_comm] using h
  have hversion : event.stateVersion = old.length + 1 := by
    have h := congrArg List.getLast? hhistory'.stateVersions
    simpa [List.getLast?_range', Nat.add_comm] using h
  have heventStored : event ∈ storedReceipts root' :=
    mem_storedReceipts.mpr ⟨_, _, hnew, by simp⟩
  have hsealed := (hhistory'.receipts event (by simp)).2.2.2
  -- every old receipt is stored in the new root, sealed, and in another place
  have hother : ∀ row ∈ db.events, ∃ e, row = eventRow e ∧ e ∈ storedReceipts root' ∧
      e.eventDigest = canonicalDigest sha (.obj e.toEventBody.toDict) ∧
      e.eventId = eventIdOf e.eventDigest ∧
      ¬ (e.authorityId = event.authorityId ∧ e.sequence = event.sequence) := by
    intro row hrow
    obtain ⟨events, hlog, e, he, rfl⟩ := href.event_row hrow
    obtain ⟨new, hgrown⟩ := hinv.log_grows hstep hlog
    obtain ⟨record, hrecord⟩ := hinv.events _ _ hlog
    obtain ⟨-, -, stored, hstored, hhistory⟩ := hinv.records _ _ hrecord
    have hstoredEq : stored = events := Option.some.inj (hstored.symm.trans hlog)
    subst hstoredEq
    obtain ⟨-, -, -, hdigest, hid⟩ := hhistory.receipts e he
    refine ⟨e, rfl, ?_, hdigest, hid, ?_⟩
    · exact mem_storedReceipts.mpr ⟨_, _, hgrown, List.mem_append_left _ he⟩
    · rintro ⟨hauthority, hplace⟩
      have hlogOld : stored = old := by
        have hlog' : root.events[e.authorityId]? = some stored := hlog
        rw [hauthority] at hlog'
        rw [hlog'] at hold
        exact hold
      have hmem : e.sequence ∈ stored.map (·.sequence) := List.mem_map_of_mem he
      rw [hhistory.sequences, List.mem_range'_1, hlogOld] at hmem
      omega
  rw [← hevents] at hother
  refine appendEvent_ok (by omega) (by omega) hrow ?_ ?_ ?_
  · intro row hrow
    obtain ⟨e, rfl, -, -, -, hplace⟩ := hother row hrow
    exact hplace
  · intro row hrow heq
    obtain ⟨e, rfl, hstored, hdigest, hid, hplace⟩ := hother row hrow
    have hids : e.eventId = event.eventId := heq
    rw [hid, hsealed.2, hdigest, hsealed.1] at hids
    refine hplace (place_of_eventDigest hfree hstored heventStored ?_)
    rw [hdigest, hsealed.1]
    exact eventIdOf_injective hids
  · intro row hrow heq
    obtain ⟨e, rfl, hstored, -, -, hplace⟩ := hother row hrow
    exact hplace (place_of_eventDigest hfree hstored heventStored heq)

section

variable {sha : Sha256} {root : AuthorityRoot} {db : Database} {server : PostgresServer}

/-- The rows that the disjunctive query of `issue_or_get` matches. -/
def overlappingRows (db : Database) (request : IssueRequest) : List RecordRow :=
  db.records.filter fun row => row.authorityId == request.authorityId ||
    row.idempotencyKey == request.idempotencyKey || row.nonce == request.nonce

variable {request : IssueRequest} {record : AuthorityRecord}

section

variable (hinv : StoreInvariant sha root)

include hinv

theorem overlappingRows_eq_nil (href : Refines root db)
    (hid : root.records[request.authorityId]? = none)
    (hkey : root.idempotency[request.idempotencyKey]? = none)
    (hnonce : root.nonces[request.nonce]? = none) : overlappingRows db request = [] := by
  unfold overlappingRows
  rw [List.filter_eq_nil_iff]
  intro row hrow hmatch
  obtain ⟨record, hrecord, hof⟩ := href.rows row hrow
  simp only [Bool.or_eq_true, beq_iff_eq] at hmatch
  rcases hmatch with (hmatch | hmatch) | hmatch
  · rw [hmatch, hid] at hrecord
    cases hrecord
  · have hindex := (hinv.idempotency request.idempotencyKey row.authorityId).mpr
      ⟨record, hrecord, hof.idempotencyKey.symm.trans hmatch⟩
    rw [hkey] at hindex
    cases hindex
  · have hindex := (hinv.nonces request.nonce row.authorityId).mpr
      ⟨record, hrecord, hof.nonce.symm.trans hmatch⟩
    rw [hnonce] at hindex
    cases hindex

theorem unused_of_overlappingRows_nil (href : Refines root db)
    (hnil : overlappingRows db request = []) :
    root.records[request.authorityId]? = none ∧
      root.idempotency[request.idempotencyKey]? = none ∧
      root.nonces[request.nonce]? = none := by
  have hnone : ∀ (id : String) record, root.records[id]? = some record →
      ¬ (id = request.authorityId ∨ record.idempotencyKey = request.idempotencyKey ∨
        record.nonce = request.nonce) := by
    intro id record hrecord hoverlap
    obtain ⟨row, hrow, hid, hof⟩ := href.row_of_record hrecord
    have hmem : row ∈ overlappingRows db request := by
      simp only [overlappingRows, List.mem_filter, Bool.or_eq_true, beq_iff_eq, hid,
        hof.idempotencyKey, hof.nonce]
      exact ⟨hrow, by tauto⟩
    rw [hnil] at hmem
    cases hmem
  refine ⟨?_, ?_, ?_⟩
  · rw [Option.eq_none_iff_forall_ne_some]
    exact fun record hrecord => hnone _ record hrecord (.inl rfl)
  · rw [Option.eq_none_iff_forall_ne_some]
    intro id hid
    obtain ⟨record, hrecord, hkey⟩ := (hinv.idempotency _ _).mp hid
    exact hnone _ record hrecord (.inr (.inl hkey))
  · rw [Option.eq_none_iff_forall_ne_some]
    intro id hid
    obtain ⟨record, hrecord, hnonce⟩ := (hinv.nonces _ _).mp hid
    exact hnone _ record hrecord (.inr (.inr hnonce))

variable {id : String} {existing : AuthorityRecord}

theorem record_of_overlapping {row : RecordRow} (hexisting : root.records[id]? = some existing)
    (hsame : requireSameIssue sha existing request = .ok ())
    (hrow : row ∈ overlappingRows db request)
    (hrecord : root.records[row.authorityId]? = some record) (hof : RowOf record row) :
    record = existing := by
  obtain ⟨hidEq, hkeyEq, hnonceEq⟩ := requireSameIssue_ok hsame
  have hexistingId := (hinv.records _ _ hexisting).1
  suffices hplace : row.authorityId = id by
    rw [hplace, hexisting] at hrecord
    exact (Option.some.inj hrecord).symm
  simp only [overlappingRows, List.mem_filter, Bool.or_eq_true, beq_iff_eq] at hrow
  rcases hrow.2 with (hmatch | hmatch) | hmatch
  · rw [hmatch, ← hidEq, hexistingId]
  · have hleft := (hinv.idempotency _ _).mpr ⟨record, hrecord, hof.idempotencyKey.symm⟩
    have hright := (hinv.idempotency _ _).mpr ⟨existing, hexisting, rfl⟩
    rw [hmatch, ← hkeyEq, hright] at hleft
    exact (Option.some.inj hleft).symm
  · have hleft := (hinv.nonces _ _).mpr ⟨record, hrecord, hof.nonce.symm⟩
    have hright := (hinv.nonces _ _).mpr ⟨existing, hexisting, rfl⟩
    rw [hmatch, ← hnonceEq, hright] at hleft
    exact (Option.some.inj hleft).symm

theorem fileIssueOrGet_existing {authorityId idempotencyKey nonce : String} {actionBinding : Json}
    {now : Reading}
    (hrequest : validatedIssueRequest sha authorityId idempotencyKey nonce actionBinding =
      .ok request) (hexisting : root.records[id]? = some existing)
    (hsame : requireSameIssue sha existing request = .ok ()) :
    fileIssueOrGet sha root authorityId idempotencyKey nonce actionBinding now =
      .ok (existing, root) := by
  obtain ⟨hid, hblank, events, -, hhistory⟩ := hinv.records _ _ hexisting
  obtain ⟨hidEq, hkeyEq, -⟩ := requireSameIssue_ok hsame
  have hindex : root.idempotency[request.idempotencyKey]? = some id := by
    rw [← hkeyEq]
    exact (hinv.idempotency _ _).mpr ⟨existing, hexisting, rfl⟩
  have hne : id ≠ "" := by
    rintro rfl
    exact absurd hblank (by decide)
  have hfound : existingAuthorityId root request = some id := by
    simp [existingAuthorityId, hindex, hne]
  have hrequired : requiredRecord sha root.records id = .ok existing := by
    simp [requiredRecord, requiredText, hblank, hexisting, hhistory.valid, rejectIf, bind,
      Except.bind, pure, Except.pure]
  simp [fileIssueOrGet, hrequest, hfound, hrequired, hsame, bind, Except.bind, pure,
    Except.pure]

theorem Refines.issue (href : Refines root db)
    {request : IssueRequest} {now : Reading} {record : AuthorityRecord} {event : EventReceipt}
    (hissue : newIssue sha request now = .ok (record, event))
    (hid : root.records[request.authorityId]? = none) :
    Refines
      { records := root.records.insert request.authorityId record
        idempotency := root.idempotency.insert request.idempotencyKey request.authorityId
        nonces := root.nonces.insert request.nonce request.authorityId
        events := root.events.insert request.authorityId [event] }
      { records := db.records ++ [recordRow record]
        events := db.events ++ [eventRow event] } := by
  have hidentity := newIssue_identity hissue
  have hauthority : record.authorityId = request.authorityId := by rw [hidentity]
  have heventId := newIssue_event_authorityId hissue
  have hfresh : ∀ row ∈ db.records, row.authorityId ≠ request.authorityId := by
    intro row hrow heq
    obtain ⟨other, hother, -⟩ := href.rows row hrow
    rw [heq, hid] at hother
    cases hother
  have hlog := hinv.log_none hid
  constructor
  · rw [List.map_append, List.nodup_append]
    refine ⟨href.keys, by simp, ?_⟩
    intro key hkey key' hkey'
    obtain ⟨row, hrow, rfl⟩ := List.mem_map.mp hkey
    simp only [List.map_cons, List.map_nil, List.mem_singleton] at hkey'
    rw [hkey']
    exact fun heq => hfresh row hrow (heq.trans hauthority)
  · intro row hrow
    rcases List.mem_append.mp hrow with hold | hnew
    · obtain ⟨other, hother, hof⟩ := href.rows row hold
      exact ⟨other, by simpa [Table.get_insert_of_ne _ _ (hfresh row hold)] using hother, hof⟩
    · rw [List.mem_singleton.mp hnew]
      refine ⟨record, ?_, ⟨rfl, rfl, rfl, rfl, rfl, .refl record⟩⟩
      simp [recordRow, hauthority]
  · intro id other hother
    simp only [Table.get_insert] at hother
    by_cases heq : id = request.authorityId
    · exact ⟨recordRow record, by simp, hauthority.trans heq.symm⟩
    · rw [if_neg heq] at hother
      obtain ⟨row, hrow, hrowId⟩ := href.records id other hother
      exact ⟨row, List.mem_append_left _ hrow, hrowId⟩
  · intro id
    rw [List.filter_append, href.events, Table.get_insert]
    by_cases heq : id = request.authorityId
    · simp [heq, hlog, eventRow, heventId]
    · have hne : ¬ request.authorityId = id := fun h => heq h.symm
      simp [heq, hne, eventRow, heventId]

end

variable {now : Reading} {event : EventReceipt}

theorem insertRecord_ok (hissue : newIssue sha request now = .ok (record, event))
    (hnil : overlappingRows db request = []) :
    insertRecord db (recordRow record) =
      .ok { db with records := db.records ++ [recordRow record] } := by
  have hidentity := newIssue_identity hissue
  have hcounters : record.version = 1 ∧ record.eventSequence = 1 := by
    obtain ⟨base, -, -, -, hversion, hsequence, -, -, -, -, hevent⟩ := newIssue_ok hissue
    rw [(Prod.mk.inj hevent).1]
    exact ⟨hversion, by simp [eventBody, hsequence]⟩
  unfold overlappingRows at hnil
  simp only [List.filter_eq_nil_iff, Bool.or_eq_true, beq_iff_eq, not_or] at hnil
  have hpkey : (db.records.any fun other => other.authorityId == record.authorityId) =
      false := by
    rw [hidentity]
    simpa using fun row hrow => (hnil row hrow).1.1
  have hkey : (db.records.any fun other => other.idempotencyKey == record.idempotencyKey) =
      false := by
    rw [hidentity]
    simpa using fun row hrow => (hnil row hrow).1.2
  have hnonce : (db.records.any fun other => other.nonce == record.nonce) = false := by
    rw [hidentity]
    simpa using fun row hrow => (hnil row hrow).2
  simp [insertRecord, constraintViolation, recordRow, hcounters, hpkey, hkey, hnonce, rejectIf,
    bind, Except.bind, pure, Except.pure]

/-- What the two stores return for a call: the same answer, and stores that
refine each other again. -/
def SameResult {α β : Type} (R : α → β → Prop) (x : α × AuthorityRoot) (y : β × Database) :
    Prop :=
  R x.1 y.1 ∧ Refines x.2 y.2

theorem issue_agrees (hinv : StoreInvariant sha root) (href : Refines root db)
    {authorityId idempotencyKey nonce : String} {actionBinding : Json}
    (hrequest : validatedIssueRequest sha authorityId idempotencyKey nonce actionBinding =
      .ok request)
    (hrows : (db.records.filter fun row => row.authorityId == authorityId ||
      row.idempotencyKey == idempotencyKey || row.nonce == nonce) = overlappingRows db request)
    (hfetch : server.fetchone (overlappingRows db request) = none)
    (hissue : newIssue sha request now = .ok (record, event))
    (hexisting : existingAuthorityId root request = none) (hnonce : root.nonces[nonce]? = none)
    (hfree : ReceiptsCollisionFree
      (fileNext sha root (.issueOrGet authorityId idempotencyKey nonce actionBinding now))) :
    Agree (SameResult SameRecord)
      (fileIssueOrGet sha root authorityId idempotencyKey nonce actionBinding now)
      (pgIssueOrGet sha server db authorityId idempotencyKey nonce actionBinding now) := by
  have hnil := server.fetchone_none _ hfetch
  have hfile : fileIssueOrGet sha root authorityId idempotencyKey nonce actionBinding now =
      .ok (record,
        { records := root.records.insert authorityId record
          idempotency := root.idempotency.insert idempotencyKey authorityId
          nonces := root.nonces.insert nonce authorityId
          events := root.events.insert authorityId [event] }) := by
    simp only [fileIssueOrGet, hrequest, hexisting, hnonce, hissue, ok_bind]
    rfl
  have hstep := hinv.fileNext_step
    (.issueOrGet authorityId idempotencyKey nonce actionBinding now)
  simp only [fileNext, fileCall, answerRecord, hfile, Except.map] at hfree hstep
  obtain ⟨rfl, -⟩ := validatedIssueRequest_ok hrequest
  obtain ⟨hid, -, -⟩ := unused_of_overlappingRows_nil hinv href hnil
  have hrefines := Refines.issue hinv href hissue hid
  have heventId : event.authorityId = authorityId := newIssue_event_authorityId hissue
  have hlog : root.events[authorityId]? = none := hinv.log_none hid
  have happend : appendEvent { db with records := db.records ++ [recordRow record] } event =
      .ok { records := db.records ++ [recordRow record]
            events := db.events ++ [eventRow event] } := by
    refine appendEvent_of_step [] hinv hstep href rfl ?_ ?_ ?_ hfree
    · refine ⟨recordRow record, by simp, ?_⟩
      rw [heventId]
      exact congrArg IssueRequest.authorityId (newIssue_identity hissue)
    · rw [heventId, hlog]
      rfl
    · simp [heventId]
  have hpg : pgIssueOrGet sha server db authorityId idempotencyKey nonce actionBinding now =
      .ok (record, { records := db.records ++ [recordRow record]
                     events := db.events ++ [eventRow event] }) := by
    simp only [pgIssueOrGet, hrequest, hrows, hfetch, hissue, insertRecord_ok hissue hnil,
      happend, ok_bind]
    rfl
  rw [hfile, hpg]
  exact .ok ⟨.refl record, hrefines⟩

/-- `issue_or_get` agrees for every overlap with existing records, whichever row is returned. -/
theorem issueOrGet_agrees (hinv : StoreInvariant sha root) (href : Refines root db)
    (authorityId idempotencyKey nonce : String) (actionBinding : Json) (now : Reading)
    (hfree : ReceiptsCollisionFree
      (fileNext sha root (.issueOrGet authorityId idempotencyKey nonce actionBinding now))) :
    Agree (SameResult SameRecord)
      (fileIssueOrGet sha root authorityId idempotencyKey nonce actionBinding now)
      (pgIssueOrGet sha server db authorityId idempotencyKey nonce actionBinding now) := by
  cases hrequest : validatedIssueRequest sha authorityId idempotencyKey nonce actionBinding with
  | error e =>
    simp only [fileIssueOrGet, pgIssueOrGet, hrequest]
    exact .error e e
  | ok request =>
    obtain ⟨hrequestEq, -⟩ := validatedIssueRequest_ok hrequest
    have hrows : (db.records.filter fun row => row.authorityId == authorityId ||
        row.idempotencyKey == idempotencyKey || row.nonce == nonce) =
        overlappingRows db request := by
      rw [hrequestEq]
      rfl
    cases hfetch : server.fetchone (overlappingRows db request) with
    | some row =>
      have hrow := server.fetchone_mem _ _ hfetch
      obtain ⟨record, hrecord, hof⟩ := href.rows row (List.mem_of_mem_filter hrow)
      have hpg : pgIssueOrGet sha server db authorityId idempotencyKey nonce actionBinding
          now = (requireSameIssue sha record request).map fun _ =>
            (server.decodedRecord row.record, db) := by
        rw [← requireSameIssue_same (hof.same.decoded server)]
        simp only [pgIssueOrGet, hrequest, hrows, hfetch]
        rfl
      rw [hpg]
      cases hsame : requireSameIssue sha record request with
      | ok u =>
        rw [fileIssueOrGet_existing hinv hrequest hrecord hsame]
        exact .ok ⟨hof.same.decoded server, href⟩
      | error e =>
        cases hfile : fileIssueOrGet sha root authorityId idempotencyKey nonce
            actionBinding now with
        | error e' => exact .error e' e
        | ok result =>
          exfalso
          obtain ⟨request', hrequest', hcases⟩ := fileIssueOrGet_ok hfile
          rw [hrequest] at hrequest'
          obtain rfl := Except.ok.inj hrequest'
          rcases hcases with ⟨id, -, hrequired, hsame', -⟩ | ⟨hnone, hnonce, -⟩
          · obtain ⟨hexisting, -, -⟩ := requiredRecord_ok hrequired
            rw [record_of_overlapping hinv hexisting hsame' hrow hrecord hof,
              hsame'] at hsame
            cases hsame
          · obtain ⟨hkey, hid⟩ := hinv.unused_of_existing_none hnone
            rw [overlappingRows_eq_nil hinv href hid hkey
              (by rw [hrequestEq]; exact hnonce)] at hrow
            cases hrow
    | none =>
      have hnil := server.fetchone_none _ hfetch
      obtain ⟨hid, hkey, hnonce⟩ := unused_of_overlappingRows_nil hinv href hnil
      have hexisting : existingAuthorityId root request = none := by
        simp [existingAuthorityId, existingAuthorityId.byAuthorityId, hkey, hid]
      have hnonce' : root.nonces[nonce]? = none := by
        rw [hrequestEq] at hnonce
        exact hnonce
      cases hissue : newIssue sha request now with
      | error e =>
        simp only [fileIssueOrGet, pgIssueOrGet, hrequest, hrows, hfetch, hexisting,
          hnonce', hissue, ok_bind, error_bind]
        exact .error e e
      | ok issued =>
        exact issue_agrees hinv href hrequest hrows hfetch hissue hexisting hnonce' hfree

end

end OrbitalMesh
