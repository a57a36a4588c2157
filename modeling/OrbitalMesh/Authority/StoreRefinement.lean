import OrbitalMesh.Authority.StoreSimulation

/-!
# The two authority stores agree on every run

The three transitions and the reader follow the simulation of
`StoreSimulation`, and by induction so does every sequence of calls
(`refines_run`).  The only way the stores could part is a digest collision
between receipts: the Postgres tables declare event ids and event digests
unique, the file store does not.
-/

namespace OrbitalMesh

section

variable {sha : Sha256} {root : AuthorityRoot} {db : Database} {server : PostgresServer}
  {record updated : AuthorityRecord} {row : RecordRow}

theorem compareAndSet_ok (href : Refines root db) {id : String} (hrow : row ∈ db.records)
    (hid : row.authorityId = id) (hof : RowOf record row) (hversion : updated.version ≠ 0)
    (hsequence : updated.eventSequence ≠ 0) :
    compareAndSet db id record.version record.state updated =
      .ok { db with records := db.records.map fun row =>
        if row.authorityId = id then updatedRow updated row else row } := by
  have hmatch : ∀ other ∈ db.records, (other.authorityId == id &&
      decide ((other.version : Int) = record.version) && other.state == record.state) =
        decide (other.authorityId = id) := by
    intro other hother
    by_cases heq : other.authorityId = id
    · have hsame := href.row_unique hother hrow (heq.trans hid.symm)
      simp [hsame, hid, hof.version, hof.state]
    · simp [heq]
  have hany : (db.records.any fun other => other.authorityId == id &&
      decide ((other.version : Int) = record.version) && other.state == record.state) =
        true := by
    rw [List.any_eq_true]
    exact ⟨row, hrow, by rw [hmatch row hrow]; simp [hid]⟩
  have hmap : (db.records.map fun other =>
      if (other.authorityId == id && decide ((other.version : Int) = record.version) &&
        other.state == record.state) = true then updatedRow updated other else other) =
      db.records.map fun other =>
        if other.authorityId = id then updatedRow updated other else other := by
    refine List.map_congr_left fun other hother => ?_
    rw [hmatch other hother]
    simp
  simp only [compareAndSet, hany, hmap]
  simp [constraintViolation, rejectIf, hversion, hsequence, pure, Except.pure]

theorem Refines.advance (href : Refines root db) {record updated updated' : AuthorityRecord}
    {row : RecordRow} {event : EventReceipt} {events : List EventReceipt}
    (hrow : row ∈ db.records) (hid : row.authorityId = updated.authorityId)
    (hof : RowOf record row) (hidentity : updated.toIssueRequest = record.toIssueRequest)
    (hsame : SameRecord updated updated')
    (hevents : root.events[updated.authorityId]? = some events)
    (heventId : event.authorityId = updated.authorityId) :
    Refines
      { root with
        events := root.events.insert updated.authorityId (events ++ [event])
        records := root.records.insert updated.authorityId updated }
      { records := db.records.map fun row =>
          if row.authorityId = updated.authorityId then updatedRow updated' row else row
        events := db.events ++ [eventRow event] } := by
  have hupdated : RowOf updated (updatedRow updated' row) := by
    obtain ⟨binding, result, rfl, -, -⟩ := id hsame
    exact ⟨hid, by rw [hidentity]; exact hof.idempotencyKey, by rw [hidentity]; exact hof.nonce,
      rfl, rfl, hsame⟩
  have hkeep : ∀ other : RecordRow, (if other.authorityId = updated.authorityId
      then updatedRow updated' other else other).authorityId = other.authorityId := by
    intro other
    split <;> rfl
  constructor
  · have hkeys : (db.records.map fun row => if row.authorityId = updated.authorityId
        then updatedRow updated' row else row).map (·.authorityId) =
        db.records.map (·.authorityId) := by
      rw [List.map_map]
      exact List.map_congr_left fun other _ => hkeep other
    rw [hkeys]
    exact href.keys
  · intro other hother
    obtain ⟨old, hold, rfl⟩ := List.mem_map.mp hother
    by_cases heq : old.authorityId = updated.authorityId
    · have hsameRow := href.row_unique hold hrow (heq.trans hid.symm)
      subst hsameRow
      refine ⟨updated, ?_, ?_⟩
      · rw [hkeep, heq]
        simp
      · rw [if_pos heq]
        exact hupdated
    · obtain ⟨record', hrecord', hof'⟩ := href.rows old hold
      rw [if_neg heq]
      exact ⟨record', by simpa [Table.get_insert_of_ne _ _ heq] using hrecord', hof'⟩
  · intro id' other hother
    simp only [Table.get_insert] at hother
    by_cases heq : id' = updated.authorityId
    · refine ⟨_, List.mem_map_of_mem hrow, ?_⟩
      rw [hkeep, hid, heq]
    · rw [if_neg heq] at hother
      obtain ⟨other', hmem, hid'⟩ := href.records id' other hother
      exact ⟨_, List.mem_map_of_mem hmem, by rw [hkeep, hid']⟩
  · intro id'
    rw [List.filter_append, href.events, Table.get_insert]
    by_cases heq : id' = updated.authorityId
    · simp [heq, hevents, eventRow, heventId]
    · have hne : ¬ updated.authorityId = id' := fun h => heq h.symm
      simp [heq, hne, eventRow, heventId]

theorem pgAdvance_ok (hinv : StoreInvariant sha root) (href : Refines root db)
    {updated' : AuthorityRecord} {event : EventReceipt} {events : List EventReceipt}
    (hrecord : root.records[updated.authorityId]? = some record)
    (hevents : root.events[updated.authorityId]? = some events)
    (hmove : AuthorityStep sha record updated event) (hrow : row ∈ db.records)
    (hid : row.authorityId = updated.authorityId) (hof : RowOf record row)
    (hsame : SameRecord updated updated')
    (hfree : ReceiptsCollisionFree
      { root with
        events := root.events.insert updated.authorityId (events ++ [event])
        records := root.records.insert updated.authorityId updated }) :
    (compareAndSet db updated.authorityId record.version record.state updated' >>= fun db =>
      appendEvent db event >>= fun db => pure (updated', db)) =
      .ok (updated',
        { records := db.records.map fun row =>
            if row.authorityId = updated.authorityId then updatedRow updated' row else row
          events := db.events ++ [eventRow event] }) := by
  obtain ⟨-, -, stored, hstored, hhistory⟩ := hinv.records _ _ hrecord
  have hlog : stored = events := Option.some.inj (hstored.symm.trans hevents)
  subst hlog
  have hnext := hhistory.step hmove
  have hcounters : updated'.version ≠ 0 ∧ updated'.eventSequence ≠ 0 := by
    have hv := hnext.version_eq
    have hs := hnext.eventSequence_eq
    obtain ⟨_, _, rfl, -, -⟩ := hsame
    exact ⟨by simp [hv], by simp [hs]⟩
  have heventId := hmove.event_authorityId
  have happend : appendEvent
      { db with records := db.records.map fun row =>
          if row.authorityId = updated.authorityId then updatedRow updated' row else row }
      event = .ok
        { records := db.records.map fun row =>
            if row.authorityId = updated.authorityId then updatedRow updated' row else row
          events := db.events ++ [eventRow event] } := by
    refine appendEvent_of_step stored hinv (.advance hrecord hevents hmove) href rfl ?_ ?_ ?_
      hfree
    · refine ⟨_, List.mem_map_of_mem hrow, ?_⟩
      rw [heventId, if_pos hid]
      exact hid
    · rw [heventId, hevents]
      rfl
    · rw [heventId]
      simp
  rw [compareAndSet_ok href hrow hid hof hcounters.1 hcounters.2, ok_bind, happend]
  rfl

theorem transition_agrees (hinv : StoreInvariant sha root) (href : Refines root db)
    {authorityId : String} {expectedVersion : Int}
    {f : AuthorityRecord → Except PyError (AuthorityRecord × EventReceipt)}
    (hsame : ∀ r r', SameRecord r r' → Agree SameOutcome (f r) (f r'))
    (hstep : ∀ current updated event, f current = .ok (updated, event) →
      expectedVersion = current.version ∧ AuthorityStep sha current updated event)
    (hfree : ∀ updated root', fileTransition sha root authorityId f = .ok (updated, root') →
      ReceiptsCollisionFree root') :
    Agree (SameResult SameRecord) (fileTransition sha root authorityId f)
      (pgTransition server db authorityId expectedVersion f) := by
  by_cases hblank : isBlank authorityId = true
  · simp only [fileTransition, requiredRecord, pgTransition, requiredText, hblank, rejectIf,
      ↓reduceIte, error_bind]
    exact .error _ _
  have hversionError : expectedVersion < 1 →
      ∃ e, pgTransition server db authorityId expectedVersion f = .error e := by
    intro hlow
    refine ⟨⟨.authorityStoreError, "expected_version must be a positive integer"⟩, ?_⟩
    simp [pgTransition, requiredText, requiredVersion, hblank, hlow, rejectIf]
  cases hrecord : root.records[authorityId]? with
  | none =>
    have hfile : fileTransition sha root authorityId f = .error ⟨.authorityNotFoundError,
        "authority record " ++ pyRepr authorityId ++ " does not exist"⟩ := by
      simp [fileTransition, requiredRecord, requiredText, hblank, hrecord, rejectIf]
    rw [hfile]
    by_cases hlow : expectedVersion < 1
    · obtain ⟨e, he⟩ := hversionError hlow
      rw [he]
      exact .error _ _
    · simp only [pgTransition, requiredText, requiredVersion, hblank, hlow, rejectIf,
        href.fetch_none hrecord, decide_false, Bool.false_eq_true, ↓reduceIte, ok_bind]
      exact .error _ _
  | some record =>
    obtain ⟨hidEq, -, events, hevents, hhistory⟩ := hinv.records _ _ hrecord
    obtain ⟨row, hrow, hrowId, hof, hfetch⟩ := href.fetch_some server hrecord
    have hrequired : requiredRecord sha root.records authorityId = .ok record := by
      simp [requiredRecord, requiredText, hblank, hrecord, hhistory.valid, rejectIf, pure,
        Except.pure]
    have hpg : 1 ≤ expectedVersion → pgTransition server db authorityId expectedVersion f =
        (f (server.decodedRecord row.record) >>= fun moved => do
          let db ← compareAndSet db authorityId expectedVersion
            (server.decodedRecord row.record).state moved.1
          let db ← appendEvent db moved.2
          return (moved.1, db)) := by
      intro hlow
      have hnot : ¬ expectedVersion < 1 := by omega
      simp only [pgTransition, requiredText, requiredVersion, hblank, hnot, rejectIf,
        hfetch, decide_false, Bool.false_eq_true, ↓reduceIte, ok_bind]
    have hagree := hsame record _ (hof.same.decoded server)
    cases hf : f record with
    | error e =>
      have hfile : fileTransition sha root authorityId f = .error e := by
        simp [fileTransition, hrequired, hf]
      rw [hfile]
      by_cases hlow : expectedVersion < 1
      · obtain ⟨e', he'⟩ := hversionError hlow
        rw [he']
        exact .error _ _
      · rw [hpg (by omega)]
        rw [hf] at hagree
        generalize f (server.decodedRecord row.record) = x at hagree
        cases hagree
        exact .error _ _
    | ok moved =>
      obtain ⟨updated, event⟩ := moved
      obtain ⟨hversion, hmove⟩ := hstep record updated event hf
      have hupdatedId : updated.authorityId = authorityId := by
        rw [hmove.identity]
        exact hidEq
      subst hupdatedId
      have hfile : fileTransition sha root updated.authorityId f = .ok (updated,
          { root with
            events := root.events.insert updated.authorityId (events ++ [event])
            records := root.records.insert updated.authorityId updated }) := by
        simp [fileTransition, hrequired, hf, storeFileTransition, hevents, pure,
          Except.pure]
      have hlow : 1 ≤ expectedVersion := by
        have hlen := List.length_pos_iff.mpr hhistory.ne_nil
        rw [hversion, hhistory.version_eq]
        omega
      have hstate : (server.decodedRecord row.record).state = record.state := by
        obtain ⟨_, _, heq, -, -⟩ := hof.same.decoded server
        rw [heq]
      rw [hpg hlow, hfile]
      rw [hf] at hagree
      generalize f (server.decodedRecord row.record) = x at hagree
      cases hagree with
      | @ok _ moved' h =>
        obtain ⟨updated', event'⟩ := moved'
        obtain ⟨hsameUpdated, rfl⟩ := h
        rw [ok_bind, hstate, hversion]
        change Agree _ _ (compareAndSet db _ _ _ updated' >>= fun db =>
          appendEvent db event >>= fun db => pure (updated', db))
        rw [pgAdvance_ok hinv href hrecord hevents hmove hrow hrowId hof hsameUpdated
          (hfree _ _ hfile)]
        exact .ok ⟨hsameUpdated, href.advance hrow hrowId hof hmove.identity hsameUpdated
          hevents (hmove.event_authorityId)⟩

end

section

variable {sha : Sha256} {root : AuthorityRoot} {db : Database}

theorem decodedReceipt_canon (server : PostgresServer) (event : EventReceipt) :
    (Json.obj (server.decodedReceipt event).toDict).canon =
        (Json.obj event.toDict).canon ∧
      (Json.obj (server.decodedReceipt event).toEventBody.toDict).canon =
        (Json.obj event.toEventBody.toDict).canon := by
  have hpayload : (Json.obj ((server.jsonb (.obj event.payload)).asObj?.getD [])).canon =
      (Json.obj event.payload).canon := by
    rw [← server.jsonb_canon (.obj event.payload)]
    have hcanon := server.jsonb_canon (.obj event.payload)
    cases hvalue : server.jsonb (.obj event.payload) with
    | obj members => rfl
    | _ => simp [hvalue, Json.canon] at hcanon
  constructor
  · simp only [Json.canon, Json.obj.injEq]
    refine Json.canonMembers_congr ?_
    simp [EventReceipt.toDict, EventBody.toDict, PostgresServer.decodedReceipt, hpayload]
  · simp only [Json.canon, Json.obj.injEq]
    refine Json.canonMembers_congr ?_
    simp [EventBody.toDict, PostgresServer.decodedReceipt, hpayload]

variable {record : AuthorityRecord} {events : List EventReceipt}

theorem RecordHistory.decoded {record' : AuthorityRecord} (h : RecordHistory sha record events)
    (hsame : SameRecord record record') (server : PostgresServer) :
    RecordHistory sha record' (events.map server.decodedReceipt) := by
  have hvalid : validateRecordBinding sha record'.toDict = .ok () := by
    rw [validateRecordBinding_same hsame]
    exact h.valid
  obtain ⟨binding, result, rfl, hbinding, -⟩ := hsame
  constructor
  · exact hvalid
  · simpa using h.version_eq
  · simpa using h.eventSequence_eq
  · simpa [Function.comp_def, PostgresServer.decodedReceipt] using h.sequences
  · simpa [Function.comp_def, PostgresServer.decodedReceipt] using h.stateVersions
  · intro event hevent
    obtain ⟨original, horiginal, rfl⟩ := List.mem_map.mp hevent
    obtain ⟨hschema, hid, hdigest, hsealed, heventId⟩ := h.receipts original horiginal
    refine ⟨hschema, hid, hdigest, ?_, heventId⟩
    rw [canonicalDigest_congr (decodedReceipt_canon server original).2]
    exact hsealed
  · rw [HashChain.linked_map]
    exact h.linked
  · simpa [Function.comp_def, PostgresServer.decodedReceipt] using h.word

theorem Refines.ordered_events (href : Refines root db) {id : String}
    (hevents : root.events[id]? = some events) (h : RecordHistory sha record events) :
    (db.events.filter fun row => row.authorityId == id).insertionSort
        (fun a b => a.sequence ≤ b.sequence) = events.map eventRow := by
  rw [href.events, hevents, Option.getD_some]
  refine List.Pairwise.insertionSort_eq ?_
  have hsorted : (events.map (·.sequence)).Pairwise (· ≤ ·) := by
    rw [h.sequences]
    exact List.pairwise_le_range' 1
  rw [List.pairwise_map] at hsorted ⊢
  exact hsorted

def SameView (view view' : Option Dict) : Prop :=
  view.map (fun d => (Json.obj d).canon) = view'.map (fun d => (Json.obj d).canon)

theorem SameRecord.toDict_canon {r r' : AuthorityRecord} (h : SameRecord r r') :
    (Json.obj r'.toDict).canon = (Json.obj r.toDict).canon := by
  obtain ⟨binding, result, rfl, hbinding, hresult⟩ := h
  have hresult' : (result.getD .null).canon = (r.terminalResult.getD .null).canon := by
    have hget := congrArg (Option.getD · (Json.canon .null)) hresult
    simpa [Option.getD_map] using hget
  simp only [Json.canon, Json.obj.injEq]
  refine Json.canonMembers_congr ?_
  simp [AuthorityRecord.toDict, hbinding, hresult']

theorem read_agrees (hinv : StoreInvariant sha root) (href : Refines root db)
    (server : PostgresServer) (authorityId : String) :
    Agree SameView (fileReadForReconciliation sha root authorityId)
      (pgReadForReconciliation sha server db authorityId) := by
  cases hrecord : root.records[authorityId]? with
  | none =>
    simp only [fileReadForReconciliation, pgReadForReconciliation, hrecord,
      href.fetch_none hrecord]
    exact .ok rfl
  | some record =>
    obtain ⟨-, -, events, hevents, hhistory⟩ := hinv.records _ _ hrecord
    obtain ⟨row, -, -, hof, hfetch⟩ := href.fetch_some server hrecord
    have hsame := hof.same.decoded server
    have hread := (hhistory.decoded hsame server).reconciles
    simp only [fileReadForReconciliation, pgReadForReconciliation, hrecord, hfetch, hevents,
      hhistory.reconciles, href.ordered_events hevents hhistory, List.map_map,
      Function.comp_def, eventRow, hread, ok_bind]
    refine .ok ?_
    have hreceipts : (Json.arr (events.map fun event =>
        Json.obj (server.decodedReceipt event).toDict)).canon =
        (Json.arr (events.map fun event => Json.obj event.toDict)).canon := by
      simp only [Json.canon, Json.canonList_eq_map, List.map_map, Function.comp_def]
      exact congrArg Json.arr
        (List.map_congr_left fun event _ => (decodedReceipt_canon server event).1)
    refine congrArg some (congrArg Json.obj (Json.canonMembers_congr ?_))
    simp only [reconciledView, List.map_cons, List.map_nil, hreceipts, hsame.toDict_canon]

end

/-- The same answer, up to the order of members. -/
inductive SameAnswer : AuthorityAnswer → AuthorityAnswer → Prop
  | record {r r' : AuthorityRecord} (h : SameRecord r r') : SameAnswer (.record r) (.record r')
  | view {v v' : Option Dict} (h : SameView v v') : SameAnswer (.view v) (.view v')

section

variable {sha : Sha256} {root : AuthorityRoot} {db : Database}

private theorem answerRecord_agree {x : Except PyError (AuthorityRecord × AuthorityRoot)}
    {y : Except PyError (AuthorityRecord × Database)}
    (h : Agree (SameResult SameRecord) x y) :
    Agree (SameResult SameAnswer) (answerRecord x) (answerRecord y) := by
  cases h with
  | ok hab => exact .ok ⟨.record hab.1, hab.2⟩
  | error e e' => exact .error e e'

theorem call_agrees (hinv : StoreInvariant sha root) (href : Refines root db)
    (call : AuthorityCall) (server : PostgresServer)
    (hfree : ReceiptsCollisionFree (fileNext sha root call)) :
    Agree (SameResult SameAnswer) (fileCall sha root call) (pgCall sha server db call) := by
  cases call with
  | issueOrGet authorityId idempotencyKey nonce actionBinding now =>
    exact answerRecord_agree (issueOrGet_agrees hinv href authorityId idempotencyKey nonce
      actionBinding now hfree)
  | leaseForDispatch authorityId expectedVersion leaseId leaseSeconds now =>
    refine answerRecord_agree (transition_agrees hinv href
      (fun _ _ h => leaseTransition_same h _ _ _ _) ?_ ?_)
    · intro current updated event h
      obtain ⟨_, _, -, hversion, -⟩ := leaseTransition_ok h
      exact ⟨hversion, leaseTransition_step h⟩
    · intro updated root' hfile
      simpa [fileNext, fileCall, fileLeaseForDispatch, hfile, answerRecord, Except.map]
        using hfree
  | markDispatched authorityId expectedVersion leaseId now =>
    refine answerRecord_agree (transition_agrees hinv href
      (fun _ _ h => dispatchTransition_same h _ _ _) ?_ ?_)
    · intro current updated event h
      obtain ⟨_, _, -, hversion, -⟩ := dispatchTransition_ok h
      exact ⟨hversion, dispatchTransition_step h⟩
    · intro updated root' hfile
      simpa [fileNext, fileCall, fileMarkDispatched, hfile, answerRecord, Except.map]
        using hfree
  | completeTerminal authorityId expectedVersion leaseId outcome result now =>
    refine answerRecord_agree (transition_agrees hinv href
      (fun _ _ h => terminalTransition_same h _ _ _ _ _) ?_ ?_)
    · intro current updated event h
      obtain ⟨_, _, -, -, hversion, -⟩ := terminalTransition_ok h
      exact ⟨hversion, terminalTransition_step h⟩
    · intro updated root' hfile
      simpa [fileNext, fileCall, fileCompleteTerminal, hfile, answerRecord, Except.map]
        using hfree
  | readForReconciliation authorityId =>
    have hread := read_agrees hinv href server authorityId
    simp only [fileCall, pgCall]
    generalize fileReadForReconciliation sha root authorityId = x at hread ⊢
    generalize pgReadForReconciliation sha server db authorityId = y at hread ⊢
    cases hread with
    | ok h => exact .ok ⟨.view h, href⟩
    | error e e' => exact .error e e'

theorem Refines.next (hinv : StoreInvariant sha root) (href : Refines root db)
    (call : AuthorityCall × PostgresServer)
    (hfree : ReceiptsCollisionFree (fileNext sha root call.1)) :
    Refines (fileNext sha root call.1) (pgNext sha db call) := by
  have hagree := call_agrees hinv href call.1 call.2 hfree
  unfold fileNext pgNext
  generalize fileCall sha root call.1 = x at hagree
  generalize pgCall sha call.2 db call.1 = y at hagree
  cases hagree with
  | ok h => exact h.2
  | error e e' => exact href

theorem ReceiptsCollisionFree.of_run (hinv : StoreInvariant sha root)
    (calls : List AuthorityCall) (h : ReceiptsCollisionFree (fileRun sha root calls)) :
    ReceiptsCollisionFree root := by
  intro e he e' he'
  exact h e (storedReceipts_run calls hinv he) e' (storedReceipts_run calls hinv he')

/-- The simulation holds after every sequence of calls. -/
theorem refines_run (sha : Sha256) (calls : List (AuthorityCall × PostgresServer))
    (hfree : ReceiptsCollisionFree (fileRun sha .empty (calls.map (·.1)))) :
    Refines (fileRun sha .empty (calls.map (·.1))) (pgRun sha .empty calls) := by
  suffices h : ∀ root db, StoreInvariant sha root → Refines root db →
      ReceiptsCollisionFree (fileRun sha root (calls.map (·.1))) →
      Refines (fileRun sha root (calls.map (·.1))) (pgRun sha db calls) from
    h _ _ (.empty sha) .empty hfree
  clear hfree
  induction calls with
  | nil => exact fun root db _ href _ => href
  | cons call rest ih =>
    intro root db hinv href hfree
    have hnext := hinv.next call.1
    have hfreeNext : ReceiptsCollisionFree (fileNext sha root call.1) :=
      ReceiptsCollisionFree.of_run hnext (rest.map Prod.fst) hfree
    exact ih _ _ hnext (href.next hinv call hfreeNext) hfree

end

def firstRowServer : PostgresServer where
  fetchone := List.head?
  jsonb := id
  fetchone_mem _ _ h := List.mem_of_head? h
  fetchone_none _ h := List.head?_eq_none_iff.mp h
  jsonb_canon _ := rfl

def sampleCalls : List (AuthorityCall × PostgresServer) :=
  [(.issueOrGet "authority-1" "decision-1:execute" (hex64 1)
      (.obj [("target_file", .str "a.txt")]) (some 1783872000000000), firstRowServer),
   (.leaseForDispatch "authority-1" 1 "lease-1" 30 (some 1783872000000000), firstRowServer)]

end OrbitalMesh
