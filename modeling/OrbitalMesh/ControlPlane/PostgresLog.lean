import OrbitalMesh.ControlPlane.EventCache
import OrbitalMesh.ControlPlane.RunListing

/-!
# The run log in Postgres

`PostgresStateStore` spreads an event over the columns of `run_events` and builds it again
when it lists the log.  Every method is one transaction, which fails as a whole.
-/

namespace OrbitalMesh

/-- The arguments of `create_run_session`. -/
structure RunRequest where
  goalId : Option String := none
  scenarioKey : Option String := none
  steeringMode : String
  autoMode : Bool
  pausePoints : List String
  evaluationMode : String
  orchestrationMode : String
  artifacts : Dict

/-- `RunSession.new`: the run id and the time are drawn. -/
def RunRequest.session (request : RunRequest) (runId now : String) : RunSession where
  runId := runId
  createdAt := now
  updatedAt := now
  goalId := request.goalId
  scenarioKey := request.scenarioKey
  stage := "queued"
  status := "queued"
  steeringMode := request.steeringMode
  autoMode := request.autoMode
  pausePoints := request.pausePoints
  pendingPauseStage := none
  evaluationMode := request.evaluationMode
  orchestrationMode := request.orchestrationMode
  latestEventId := none
  latestEventSequence := 0
  latestMerkleRoot := none
  operatorNotes := []
  artifacts := request.artifacts
  error := none

def RunSession.cursor (session : RunSession) : Int × Option String :=
  (session.latestEventSequence, session.latestMerkleRoot)

theorem mergeSessionSnapshot_cursor_eq (candidate current : RunSession) :
    (mergeSessionSnapshot candidate current).cursor =
      if current.latestEventSequence ≤ candidate.latestEventSequence then candidate.cursor
      else current.cursor := by
  rw [RunSession.cursor, mergeSessionSnapshot_cursor, mergeSessionSnapshot_root]
  by_cases hle : current.latestEventSequence ≤ candidate.latestEventSequence
  · rw [if_pos hle, if_pos hle, max_eq_left hle]
    rfl
  · rw [if_neg hle, if_neg hle, max_eq_right (by omega)]
    rfl

namespace PostgresStateStore

/-- What the column types make of a value: the instant of a text, its `str()`, and what is read
back.  With `none` the value is refused. -/
structure Columns where
  instant : String → Option Instant
  str : Instant → String
  jsonb : Dict → Option Dict

/-- A row of `run_events`. -/
structure EventRow where
  runId : String
  sequence : Int
  eventId : String
  stage : String
  eventType : String
  recordedAt : Instant
  payload : Dict
  summary : Option Dict
  merkleLeafHash : Option String
  artifactKey : Option String
  integrationName : Option String
  status : Option String

/-- A row of `merkle_roots`. -/
structure RootRow where
  runId : String
  eventId : String
  rootHash : String

structure LogTables where
  runs : List RunRow := []
  events : List EventRow := []
  merkleRoots : List RootRow := []

/-- The values of an event that go to `TEXT` columns. -/
def textColumns (event : RunEvent) : List String :=
  [event.runId, event.eventId, event.stage, event.eventType] ++
    [event.merkleLeafHash, event.artifactKey, event.integrationName, event.status].filterMap id

/-- A `TEXT` column takes no NUL character, an `INTEGER` column no number beyond 32 bits. -/
def takesScalars (event : RunEvent) : Bool :=
  (textColumns event).all (fun text => !text.toList.contains (Char.ofNat 0)) &&
    decide (-2147483648 ≤ event.sequence ∧ event.sequence ≤ 2147483647)

/-- `self._jsonb(value) if value is not None else None`. -/
def Columns.jsonbOrNull (columns : Columns) : Option Dict → Option (Option Dict)
  | none => some none
  | some value => (columns.jsonb value).map some

/-- The row of the `INSERT`. -/
def Columns.row (columns : Columns) (event : RunEvent) : Option EventRow :=
  if takesScalars event then do
    let recordedAt ← columns.instant event.recordedAt
    let payload ← columns.jsonb event.payload
    let summary ← columns.jsonbOrNull event.summary
    some
      { runId := event.runId
        sequence := event.sequence
        eventId := event.eventId
        stage := event.stage
        eventType := event.eventType
        recordedAt
        payload
        summary
        merkleLeafHash := event.merkleLeafHash
        artifactKey := event.artifactKey
        integrationName := event.integrationName
        status := event.status }
  else none

/-- The event that `_list_events_tx` builds from a row. -/
def EventRow.event (columns : Columns) (row : EventRow) : RunEvent where
  eventId := row.eventId
  runId := row.runId
  sequence := row.sequence
  stage := row.stage
  eventType := row.eventType
  recordedAt := columns.str row.recordedAt
  payload := row.payload
  summary := row.summary
  merkleLeafHash := row.merkleLeafHash
  artifactKey := row.artifactKey
  integrationName := row.integrationName
  status := row.status

namespace LogTables

variable (database : LogTables) (runId : String)

/-- `_get_run_session_tx`. -/
def getRunSession : Option RunSession :=
  (database.runs.find? fun row => row.runId == runId).map RunRow.snapshot

/-- The session that `_save_run_session_tx` stores. -/
def merged (session : RunSession) : RunSession :=
  match database.getRunSession session.runId with
  | some current => mergeSessionSnapshot session current
  | none => session

/-- `_save_run_session_tx`. -/
def saveRunSession (columns : Columns) (session : RunSession) (database : LogTables) :
    Except PyError (RunSession × LogTables) := do
  rejectIf (columns.instant session.updatedAt).isNone
    ⟨.exception, "invalid input syntax for type timestamp with time zone"⟩
  let runs ← PostgresStateStore.saveRunSession columns.instant session database.runs
  pure (database.merged session, { database with runs })

/-- `_lock_run_tx`. -/
def lockRun (database : LogTables) : Except PyError Unit :=
  rejectIf (!database.runs.any fun row => row.runId == runId)
    ⟨.valueError, "run " ++ pyRepr runId ++ " does not exist"⟩

def eventRows : List EventRow :=
  database.events.filter fun row => row.runId == runId

def nextSequence : Int :=
  ((database.eventRows runId).map EventRow.sequence).max?.getD 0 + 1

variable (columns : Columns)

/-- `_append_event_tx`: a row of a stored run, with a new event id and a new sequence. -/
def appendEventRow (event : RunEvent) (database : LogTables) :
    Except PyError LogTables :=
  match columns.row event with
  | none => .error ⟨.exception, "the column types of run_events refuse a value"⟩
  | some row =>
    if !database.runs.any (fun run => run.runId == row.runId) then
      .error ⟨.exception, "run_events_run_id_fkey is violated"⟩
    else if database.events.any (fun known =>
        known.eventId == row.eventId ||
          (known.runId == row.runId && known.sequence == row.sequence)) then
      .error ⟨.exception, "duplicate key value violates unique constraint"⟩
    else .ok { database with events := database.events ++ [row] }

/-- `_list_events_tx`: `ORDER BY sequence ASC`. -/
def listEvents (database : LogTables) (runId : String) : List RunEvent :=
  ((database.eventRows runId).insertionSort fun a b => a.sequence ≤ b.sequence).map
    (EventRow.event columns)

variable (hash : MerkleHash)

def advanced (columns : Columns) (database : LogTables)
    (session : RunSession) (event : RunEvent) (now : String) : RunSession :=
  { session with
    latestEventId := some event.eventId
    latestEventSequence := event.sequence
    latestMerkleRoot := some (buildMerkleSnapshot hash event.runId
      (database.listEvents columns event.runId)).rootHash
    updatedAt := now }

/-- The part that `append_run_event` and `append_event` have in common: the event is
inserted and the cursor of the session moved to it. -/
def record (columns : Columns) (event : RunEvent) (now : String)
    (database : LogTables) : Except PyError LogTables := do
  let database ← database.appendEventRow columns event
  match database.getRunSession event.runId with
  | none => pure database
  | some session =>
    let (_, saved) ← database.saveRunSession columns
      (database.advanced hash columns session event now)
    let rootHash :=
      (buildMerkleSnapshot hash event.runId (database.listEvents columns event.runId)).rootHash
    pure { saved with
      merkleRoots := saved.merkleRoots ++ [⟨event.runId, event.eventId, rootHash⟩] }

/-- `append_run_event`: `now` and `later` are the two readings of the clock. -/
def appendRunEvent (columns : Columns) (draft : EventDraft)
    (uuid now later : String) (database : LogTables) : Except PyError (RunEvent × LogTables) := do
  database.lockRun draft.runId
  let event := draft.event hash (database.nextSequence draft.runId) uuid now
  let database ← database.record hash columns event later
  pure (event, database)

/-- The event that `append_event` inserts for a given one. -/
def stamped (database : LogTables) (given : RunEvent) : RunEvent :=
  let sequence := if given.sequence ≤ 0 then database.nextSequence given.runId else given.sequence
  ({ given with sequence } : RunEvent).withLeafHash hash

def appendEvent (columns : Columns) (runId : String) (given : RunEvent)
    (later : String) (database : LogTables) : Except PyError (RunEvent × LogTables) := do
  rejectIf (given.runId != runId)
    ⟨.valueError, "event run_id " ++ pyRepr given.runId ++ " does not match " ++ pyRepr runId⟩
  database.lockRun runId
  let event := database.stamped hash given
  let database ← database.record hash columns event later
  pure (event, database)

def listRunEvents (database : LogTables) (runId : String) (after : Int) :
    List RunEvent :=
  (database.listEvents columns runId).filter fun event => after < event.sequence

def getMerkleSnapshot (columns : Columns) (database : LogTables)
    (runId : String) : MerkleSnapshot :=
  buildMerkleSnapshot hash runId (database.listRunEvents columns runId 0)

end LogTables

end PostgresStateStore

def RunEvent.said (event : RunEvent) : Json × Option String :=
  (event.canonicalPayload.canon, event.merkleLeafHash)

section

variable {hash : MerkleHash} {a b : RunEvent}

theorem RunEvent.leaf_congr (h : a.said = b.said) : a.leaf hash = b.leaf hash := by
  have hcontent : leafHashForPayload hash a.canonicalPayload =
      leafHashForPayload hash b.canonicalPayload :=
    congrArg hash.ofLeaf (congrArg Prod.fst h)
  have hstored : a.merkleLeafHash = b.merkleLeafHash := congrArg Prod.snd h
  rw [RunEvent.leaf, RunEvent.leaf, hstored, hcontent]

variable {left right : List RunEvent}

theorem merkleLeaves_congr (h : left.map RunEvent.said = right.map RunEvent.said) :
    merkleLeaves hash left = merkleLeaves hash right := by
  induction left generalizing right with
  | nil =>
    obtain rfl := List.map_eq_nil_iff.mp h.symm
    rfl
  | cons a rest ih =>
    obtain ⟨b, others, rfl, hsaid, hrest⟩ := List.map_eq_cons_iff.mp h.symm
    have hleaves : merkleLeaves hash rest = merkleLeaves hash others := ih hrest.symm
    have hleaf : a.leaf hash = b.leaf hash := RunEvent.leaf_congr hsaid.symm
    rw [merkleLeaves, merkleLeaves, List.map_cons, List.map_cons, hleaf]
    exact congrArg _ hleaves

theorem rootHash_congr {runId : String} (h : left.map RunEvent.said = right.map RunEvent.said) :
    (buildMerkleSnapshot hash runId left).rootHash =
      (buildMerkleSnapshot hash runId right).rootHash := by
  simp only [buildMerkleSnapshot, merkleLeaves_congr h]

theorem RunEvent.sequence_of_said (h : a.said = b.said) : a.sequence = b.sequence := by
  have hcontent : a.canonicalPayload.canon = b.canonicalPayload.canon := congrArg Prod.fst h
  have hfield := Json.get?_eq_of_canon_eq hcontent "sequence"
  simpa [Dict.get?_cons, Json.canon] using hfield

theorem filter_said (after : Int) (h : left.map RunEvent.said = right.map RunEvent.said) :
    (left.filter fun event => after < event.sequence).map RunEvent.said =
      (right.filter fun event => after < event.sequence).map RunEvent.said := by
  induction left generalizing right with
  | nil =>
    obtain rfl := List.map_eq_nil_iff.mp h.symm
    rfl
  | cons a rest ih =>
    obtain ⟨b, others, rfl, hsaid, hrest⟩ := List.map_eq_cons_iff.mp h.symm
    have hsequence := RunEvent.sequence_of_said hsaid
    have htail := ih hrest.symm
    by_cases hafter : after < a.sequence
    · rw [List.filter_cons_of_pos (by simpa using hafter),
        List.filter_cons_of_pos (by simpa [hsequence] using hafter), List.map_cons,
        List.map_cons, hsaid, htail]
    · rw [List.filter_cons_of_neg (by simpa using hafter),
        List.filter_cons_of_neg (by simpa [hsequence] using hafter), htail]

/-- Events that agree in every field, up to the order of keys, say the same. -/
theorem RunEvent.said_eq {payload : Dict} {summary : Option Dict}
    (h : a = { b with payload, summary })
    (hpayload : (Json.obj payload).canon = (Json.obj b.payload).canon)
    (hsummary : ((summary.map Json.obj).getD .null).canon =
      ((b.summary.map Json.obj).getD .null).canon) : a.said = b.said := by
  subst h
  have hcontent := @Json.canonMembers_congr
    [("event_id", .str b.eventId), ("run_id", .str b.runId), ("sequence", .int b.sequence),
      ("stage", .str b.stage), ("event_type", .str b.eventType),
      ("recorded_at", .str b.recordedAt), ("payload", .obj payload),
      ("summary", (summary.map Json.obj).getD .null),
      ("artifact_key", optionalText b.artifactKey),
      ("integration_name", optionalText b.integrationName), ("status", optionalText b.status)]
    [("event_id", .str b.eventId), ("run_id", .str b.runId), ("sequence", .int b.sequence),
      ("stage", .str b.stage), ("event_type", .str b.eventType),
      ("recorded_at", .str b.recordedAt), ("payload", .obj b.payload),
      ("summary", (b.summary.map Json.obj).getD .null),
      ("artifact_key", optionalText b.artifactKey),
      ("integration_name", optionalText b.integrationName), ("status", optionalText b.status)]
    (by simp only [List.map_cons, List.map_nil, hpayload, hsummary])
  exact Prod.ext (congrArg Json.obj hcontent) rfl

end

namespace PostgresStateStore

/-- The columns give the event back as it was written. -/
structure Columns.ReadsBack (columns : Columns) (event : RunEvent) : Prop where
  recordedAt : ∀ instant, columns.instant event.recordedAt = some instant →
    columns.str instant = event.recordedAt
  payload : ∀ value, columns.jsonb event.payload = some value →
    (Json.obj value).canon = (Json.obj event.payload).canon
  summary : ∀ value, columns.jsonbOrNull event.summary = some value →
    ((value.map Json.obj).getD .null).canon = ((event.summary.map Json.obj).getD .null).canon

/-- The row was written for the event. -/
structure Columns.Writes (columns : Columns) (event : RunEvent) (row : EventRow) : Prop where
  lists : row.event columns = { event with
    recordedAt := columns.str row.recordedAt, payload := row.payload, summary := row.summary }
  recordedAt : columns.instant event.recordedAt = some row.recordedAt
  payload : columns.jsonb event.payload = some row.payload
  summary : columns.jsonbOrNull event.summary = some row.summary

section

variable {columns : Columns} {event : RunEvent} {row : EventRow}

theorem Columns.writes_of_row (h : columns.row event = some row) : columns.Writes event row := by
  unfold Columns.row at h
  split at h
  · simp only [Option.bind_eq_bind, Option.bind_eq_some_iff, Option.some.injEq] at h
    obtain ⟨recordedAt, htime, payload, hpayload, summary, hsummary, rfl⟩ := h
    exact ⟨rfl, htime, hpayload, hsummary⟩
  · cases h

section

variable (h : columns.Writes event row)

include h

theorem Columns.Writes.runId : row.runId = event.runId :=
  congrArg RunEvent.runId h.lists

theorem Columns.Writes.eventId : row.eventId = event.eventId :=
  congrArg RunEvent.eventId h.lists

theorem Columns.Writes.sequence : row.sequence = event.sequence :=
  congrArg RunEvent.sequence h.lists

theorem Columns.Writes.said (hback : columns.ReadsBack event) :
    (row.event columns).said = event.said := by
  have hevent : row.event columns =
      { event with payload := row.payload, summary := row.summary } := by
    rw [h.lists, hback.recordedAt _ h.recordedAt]
  exact RunEvent.said_eq hevent (hback.payload _ h.payload) (hback.summary _ h.summary)

end

end

namespace LogTables

section

variable {hash : MerkleHash} {columns : Columns} {database later : LogTables}
variable {session : RunSession} {event : RunEvent} {runId now after : String} {stored : RunSession}

theorem find?_map_rows {rows : List RunRow} {f : RunRow → RunRow}
    (hf : ∀ row, (f row).runId = row.runId) :
    (rows.map f).find? (fun row => row.runId == runId) =
      (rows.find? fun row => row.runId == runId).map f := by
  have hsame : (fun row : RunRow => row.runId == runId) ∘ f = fun row => row.runId == runId :=
    funext fun row => by rw [Function.comp_apply, hf]
  rw [List.find?_map, hsame]

/-- **A save** stores the merged session, and leaves the other runs and the events alone. -/
theorem saveRunSession_spec (h : database.saveRunSession columns session = .ok (stored, later)) :
    stored = database.merged session ∧ later.events = database.events ∧
      later.getRunSession session.runId = some stored ∧
      ∀ other, other ≠ session.runId →
        later.getRunSession other = database.getRunSession other := by
  simp only [saveRunSession, Except.bind_ok_iff, rejectIf_ok] at h
  obtain ⟨-, -, rows, hrows, hdone⟩ := h
  obtain ⟨rfl, rfl⟩ := Prod.mk.inj (Except.ok.inj hdone)
  refine ⟨rfl, rfl, ?_⟩
  unfold PostgresStateStore.saveRunSession at hrows
  cases htime : columns.instant session.createdAt with
  | none => simp [htime] at hrows
  | some createdAt =>
    rw [htime] at hrows
    cases hfind : database.runs.find? fun row => row.runId == session.runId with
    | none =>
      rw [hfind] at hrows
      obtain rfl := Except.ok.inj hrows
      have hmerged : database.merged session = session := by
        simp [merged, getRunSession, hfind]
      constructor
      · simp [getRunSession, List.find?_append, hfind, hmerged]
      · intro other hne
        have hnew : (session.runId == other) = false := by simpa using hne.symm
        simp [getRunSession, List.find?_append, hnew]
    | some current =>
      rw [hfind] at hrows
      have hmerged : database.merged session =
          mergeSessionSnapshot session current.snapshot := by
        simp [merged, getRunSession, hfind]
      have hid : current.runId = session.runId := by
        simpa using List.find?_some hfind
      rw [hmerged]
      obtain rfl := Except.ok.inj hrows
      constructor
      · rw [getRunSession, find?_map_rows fun row => by split <;> rfl, hfind, Option.map_some,
          Option.map_some, if_pos (hid.trans (mergeSessionSnapshot_runId _ _).symm)]
      · intro other hne
        rw [getRunSession, getRunSession, find?_map_rows fun row => by split <;> rfl,
          Option.map_map]
        cases hother : database.runs.find? fun row => row.runId == other with
        | none => rfl
        | some row =>
          have hrow : row.runId = other := by simpa using List.find?_some hother
          have hkeep : row.runId ≠ session.runId := hrow ▸ hne
          simp [hkeep]

def Keyed (database : LogTables) : Prop := ∀ row ∈ database.runs, row.snapshot.runId = row.runId

theorem Keyed.runId_eq (h : database.Keyed) (hfound : database.getRunSession runId = some session) :
    session.runId = runId := by
  obtain ⟨row, hrow, rfl⟩ := Option.map_eq_some_iff.mp hfound
  have hid : row.runId = runId := by simpa using List.find?_some hrow
  rw [h row (List.mem_of_find?_eq_some hrow), hid]

theorem Keyed.saveRunSession (h : database.Keyed)
    (hsave : database.saveRunSession columns session = .ok (stored, later)) : later.Keyed := by
  simp only [LogTables.saveRunSession, Except.bind_ok_iff, rejectIf_ok] at hsave
  obtain ⟨-, -, rows, hrows, hdone⟩ := hsave
  obtain ⟨-, rfl⟩ := Prod.mk.inj (Except.ok.inj hdone)
  unfold PostgresStateStore.saveRunSession at hrows
  cases htime : columns.instant session.createdAt with
  | none => simp [htime] at hrows
  | some createdAt =>
    rw [htime] at hrows
    cases hfind : database.runs.find? fun row => row.runId == session.runId with
    | none =>
      rw [hfind] at hrows
      obtain rfl := Except.ok.inj hrows
      intro row hrow
      rcases List.mem_append.mp hrow with hrow | hrow
      · exact h row hrow
      · rw [List.mem_singleton.mp hrow]
    | some current =>
      rw [hfind] at hrows
      obtain rfl := Except.ok.inj hrows
      intro row hrow
      obtain ⟨known, hknown, rfl⟩ := List.mem_map.mp hrow
      split
      · next hid => exact hid.symm
      · exact h known hknown

/-- **An insert** adds one row, with a new event id. -/
theorem appendEventRow_spec (h : database.appendEventRow columns event = .ok later) :
    ∃ row, columns.Writes event row ∧ later = { database with events := database.events ++ [row] } ∧
      ∀ known ∈ database.events, known.eventId ≠ event.eventId := by
  unfold appendEventRow at h
  cases hrow : columns.row event with
  | none => simp [hrow] at h
  | some row =>
    rw [hrow] at h
    dsimp only at h
    have hwrites := Columns.writes_of_row hrow
    split_ifs at h with hrun hknown
    cases h
    refine ⟨row, hwrites, rfl, fun known hmem hsame => hknown ?_⟩
    refine List.any_eq_true.mpr ⟨known, hmem, ?_⟩
    simp [hsame, hwrites.eventId]

theorem record_spec (hkeyed : database.Keyed)
    (h : database.record hash columns event now = .ok later) :
    (∃ row, columns.Writes event row ∧ later.events = database.events ++ [row]) ∧
      (∀ known ∈ database.events, known.eventId ≠ event.eventId) ∧ later.Keyed ∧
      (∀ other, other ≠ event.runId → later.getRunSession other = database.getRunSession other) ∧
      (later.getRunSession event.runId).map RunSession.cursor =
        (database.getRunSession event.runId).map fun session =>
          if session.latestEventSequence ≤ event.sequence then
            (event.sequence, some (buildMerkleSnapshot hash event.runId
              (later.listEvents columns event.runId)).rootHash)
          else session.cursor := by
  obtain ⟨inserted, hinsert, hrest⟩ := bind_ok h
  obtain ⟨row, hwrites, rfl, hnew⟩ := appendEventRow_spec hinsert
  set inserted : LogTables := { database with events := database.events ++ [row] }
  have hsame : ∀ runId, inserted.getRunSession runId = database.getRunSession runId :=
    fun _ => rfl
  cases hget : database.getRunSession event.runId with
  | none =>
    rw [hsame, hget] at hrest
    obtain rfl := Except.ok.inj hrest
    exact ⟨⟨row, hwrites, rfl⟩, hnew, hkeyed, fun _ _ => rfl, by rw [hsame, hget]; rfl⟩
  | some session =>
    rw [hsame, hget] at hrest
    obtain ⟨⟨stored, saved⟩, hsave, hdone⟩ := bind_ok hrest
    obtain rfl := Except.ok.inj hdone
    have hid : session.runId = event.runId := hkeyed.runId_eq hget
    have hkept : inserted.Keyed := hkeyed
    have hsaved : saved.Keyed := hkept.saveRunSession hsave
    obtain ⟨rfl, hevents, hstored, hothers⟩ := saveRunSession_spec hsave
    have hmerged : inserted.merged (inserted.advanced hash columns session event now) =
        mergeSessionSnapshot (inserted.advanced hash columns session event now) session := by
      rw [merged, show (inserted.advanced hash columns session event now).runId = event.runId
        from hid, hsame, hget]
    refine ⟨⟨row, hwrites, hevents⟩, hnew, hsaved, fun other hne => ?_, ?_⟩
    · exact hothers other fun heq => hne (heq.trans hid)
    · have hlist : saved.listEvents columns event.runId =
          inserted.listEvents columns event.runId := by
        rw [listEvents, eventRows, hevents]
        rfl
      have hread : saved.getRunSession event.runId =
          some (mergeSessionSnapshot (inserted.advanced hash columns session event now)
            session) := by
        rw [← hmerged, ← hstored]
        exact congrArg saved.getRunSession hid.symm
      show (saved.getRunSession event.runId).map RunSession.cursor = _
      rw [hread, Option.map_some, Option.map_some, mergeSessionSnapshot_cursor_eq]
      show some (if session.latestEventSequence ≤ event.sequence then
          (event.sequence, some (buildMerkleSnapshot hash event.runId
            (inserted.listEvents columns event.runId)).rootHash)
        else session.cursor) =
        some (if session.latestEventSequence ≤ event.sequence then
          (event.sequence, some (buildMerkleSnapshot hash event.runId
            (saved.listEvents columns event.runId)).rootHash)
        else session.cursor)
      rw [hlist]

theorem appendRunEvent_event {draft : EventDraft} {uuid : String}
    (h : database.appendRunEvent hash columns draft uuid now after = .ok (event, later)) :
    event = draft.event hash (database.nextSequence draft.runId) uuid now ∧
      database.record hash columns event after = .ok later := by
  obtain ⟨_, -, hrest⟩ := bind_ok h
  obtain ⟨recorded, hrecord, hdone⟩ := bind_ok hrest
  obtain ⟨rfl, rfl⟩ := Prod.mk.inj (Except.ok.inj hdone)
  exact ⟨rfl, hrecord⟩

theorem appendEvent_spec {given : RunEvent}
    (h : database.appendEvent hash columns runId given after = .ok (event, later)) :
    given.runId = runId ∧ (∃ session, database.getRunSession runId = some session) ∧
      event = database.stamped hash given ∧
      database.record hash columns event after = .ok later := by
  obtain ⟨_, hsame, hrest⟩ := bind_ok h
  obtain ⟨_, hlock, hrest⟩ := bind_ok hrest
  obtain ⟨recorded, hrecord, hdone⟩ := bind_ok hrest
  obtain ⟨rfl, rfl⟩ := Prod.mk.inj (Except.ok.inj hdone)
  refine ⟨by simpa using rejectIf_ok.mp hsame, ?_, rfl, hrecord⟩
  rw [lockRun, rejectIf_ok, Bool.not_eq_false', List.any_eq_true] at hlock
  rw [← Option.isSome_iff_exists, getRunSession, Option.isSome_map, List.find?_isSome]
  exact hlock

end

section

variable {columns : Columns} {database : LogTables} {events : List RunEvent}

def ofRun (events : List RunEvent) (runId : String) : List RunEvent :=
  events.filter fun event => event.runId == runId

theorem eventRows_of_writes (h : List.Forall₂ columns.Writes events database.events)
    (runId : String) :
    List.Forall₂ columns.Writes (ofRun events runId) (database.eventRows runId) :=
  List.rel_filter (fun event row hwrites => by simp [hwrites.runId]) h

variable {rows : List EventRow}

section

variable (h : List.Forall₂ columns.Writes events rows)

include h

theorem sequences_of_writes : rows.map EventRow.sequence = events.map RunEvent.sequence := by
  induction h with
  | nil => rfl
  | cons hwrites _ ih => rw [List.map_cons, List.map_cons, hwrites.sequence, ih]

theorem eventIds_of_writes : rows.map EventRow.eventId = events.map RunEvent.eventId := by
  induction h with
  | nil => rfl
  | cons hwrites _ ih => rw [List.map_cons, List.map_cons, hwrites.eventId, ih]

theorem said_of_writes
    (hback : ∀ event ∈ events, columns.ReadsBack event) :
    (rows.map (EventRow.event columns)).map RunEvent.said = events.map RunEvent.said := by
  induction h with
  | nil => rfl
  | cons hwrites _ ih =>
    rw [List.forall_mem_cons] at hback
    rw [List.map_cons, List.map_cons, List.map_cons, hwrites.said hback.1, ih hback.2]

end

/-- **A log that was written in order** and reads back is listed as it was written. -/
theorem listEvents_said (h : List.Forall₂ columns.Writes events database.events)
    (hback : ∀ event ∈ events, columns.ReadsBack event) {runId : String}
    (horder : (ofRun events runId).Pairwise fun a b => a.sequence < b.sequence) :
    (database.listEvents columns runId).map RunEvent.said =
      (ofRun events runId).map RunEvent.said := by
  have hrows := eventRows_of_writes h runId
  have hsorted : (database.eventRows runId).Pairwise fun a b => a.sequence ≤ b.sequence := by
    have hsequences := List.pairwise_map.mpr horder
    rw [← sequences_of_writes hrows] at hsequences
    exact (List.pairwise_map.mp hsequences).imp Int.le_of_lt
  rw [listEvents, List.Pairwise.insertionSort_eq hsorted]
  exact said_of_writes hrows fun event hevent => hback event (List.mem_of_mem_filter hevent)

theorem nextSequence_eq (h : List.Forall₂ columns.Writes events database.events) (runId : String) :
    database.nextSequence runId =
      ((ofRun events runId).map RunEvent.sequence).max?.getD 0 + 1 := by
  rw [nextSequence, sequences_of_writes (eventRows_of_writes h runId)]

end

end LogTables

end PostgresStateStore

end OrbitalMesh
