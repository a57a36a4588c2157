import OrbitalMesh.Base.Atomic
import OrbitalMesh.ControlPlane.Session
import OrbitalMesh.ControlPlane.EventLog

/-!
# The file-backed state store of the control plane

`FileStateStore` keeps run sessions in one JSON file of bounded length, moves
the oldest to an append-only archive, and keeps one append-only event log for
each run, with a tail of it in memory.  Every method is a program of atomic
sections; between two of them other threads may run.

A missing sessions file and an empty one are the same to every reader.  Failing
file operations, the vault's own files and the mirror to other services are left
out; that the vault may refresh the cache is kept (`materializeVault`).
-/

namespace OrbitalMesh

open Atomic

def eventCacheSize : Nat := 512

/-- The settings of the store: `MESH_RUN_SESSION_FILE_MAX_RECORDS`. -/
structure StoreConfig where
  maxRecordsSetting : Int := 100

variable (config : StoreConfig)

/-- `_run_session_file_max_records`. -/
def StoreConfig.maxRecords : Nat :=
  (max 50 config.maxRecordsSetting).toNat

theorem StoreConfig.le_maxRecords : 50 ≤ config.maxRecords := by
  unfold StoreConfig.maxRecords
  omega

/-- The files of the store and the event cache of its process. -/
structure RunStore where
  runs : List RunSession := []
  archive : List RunSession := []
  legacyEvents : Table (List RunEvent) := ∅
  eventLogs : Table (List RunEvent) := ∅
  cache : Table (List RunEvent) := ∅

/-- `records.sort(key=lambda record: record["created_at"], reverse=True)`: the
sort is stable, also in reverse. -/
def newestFirst (sessions : List RunSession) : List RunSession :=
  sessions.insertionSort (fun a b => Json.keyLe b.createdAt a.createdAt = true)

/-- The loop of `save_run_session`: merge into the first record of the run. -/
def mergeRecord (session : RunSession) : List RunSession → Option (RunSession × List RunSession)
  | [] => none
  | existing :: rest =>
    if existing.runId = session.runId then
      let merged := mergeSessionSnapshot session existing
      some (merged, merged :: rest)
    else
      match mergeRecord session rest with
      | some (merged, records) => some (merged, existing :: records)
      | none => none

/-- The session as it is stored and the records of the live file, before they
are sorted and trimmed. -/
def placeSession (session : RunSession) (records : List RunSession) :
    RunSession × List RunSession :=
  match mergeRecord session records with
  | some placed => placed
  | none => (session, session :: records)

namespace RunStore

/-- The locked section of `save_run_session`. -/
def saveSession (config : StoreConfig) (session : RunSession) (s : RunStore) :
    RunSession × RunStore :=
  let (stored, records) := placeSession session s.runs
  let sorted := newestFirst records
  (stored, { s with
    runs := sorted.take config.maxRecords
    archive := s.archive ++ sorted.drop config.maxRecords })

variable (s : RunStore) (runId : String)

def getRunSession : Option RunSession :=
  s.runs.find? (fun session => session.runId == runId)

def records : List RunEvent :=
  (s.legacyEvents[runId]?).getD [] ++ (s.eventLogs[runId]?).getD []

def diskEvents : List RunEvent := loadEvents (s.records runId)

def cacheTail (events : List RunEvent) : List RunEvent :=
  events.drop (events.length - eventCacheSize)

/-- `self._event_tail_cache[run_id] = deque(events[-512:], maxlen=512)`. -/
def storeCache (events : List RunEvent) : RunStore :=
  { s with cache := s.cache.insert runId (cacheTail events) }

/-- `_append_event_to_cache`. -/
def cacheEvent (event : RunEvent) : RunStore :=
  s.storeCache runId ((s.cache[runId]?).getD [] ++ [event])

/-- `_append_event_record`. -/
def appendRecord (event : RunEvent) : RunStore :=
  { s with eventLogs := s.eventLogs.insert runId ((s.eventLogs[runId]?).getD [] ++ [event]) }

def sequenceFromLog : Int × RunStore :=
  let events := s.diskEvents runId
  ((events.getLast?.map fun event => event.sequence + 1).getD 1, s.storeCache runId events)

/-- `_next_event_sequence`: the cursor of the session counts if it is set. -/
def nextEventSequence : Int × RunStore :=
  match s.getRunSession runId with
  | some session =>
    if session.latestEventSequence ≠ 0 then (session.latestEventSequence + 1, s)
    else s.sequenceFromLog runId
  | none => s.sequenceFromLog runId

end RunStore

/-- The arguments of `append_run_event`. -/
structure EventDraft where
  runId : String
  stage : String
  eventType : String
  payload : Dict
  summary : Option Dict := none
  artifactKey : Option String := none
  integrationName : Option String := none
  status : Option String := none

/-- `f"{sequence:04d}"`. -/
def sequenceText (sequence : Int) : String :=
  if 0 ≤ sequence then padded 4 sequence.toNat else "-" ++ padded 3 sequence.natAbs

/-- The event that `append_run_event` builds. -/
def EventDraft.event (hash : MerkleHash) (draft : EventDraft) (sequence : Int)
    (uuid now : String) : RunEvent :=
  let event : RunEvent :=
    { eventId := "evt_" ++ sequenceText sequence ++ "_" ++ uuid
      runId := draft.runId
      sequence := sequence
      stage := draft.stage
      eventType := draft.eventType
      recordedAt := now
      payload := draft.payload
      summary := draft.summary
      artifactKey := draft.artifactKey
      integrationName := draft.integrationName
      status := draft.status }
  { event with merkleLeafHash := some (leafHashForPayload hash event.canonicalPayload) }

/-- `if not event.merkle_leaf_hash: event.merkle_leaf_hash = ...`. -/
def RunEvent.withLeafHash (hash : MerkleHash) (event : RunEvent) : RunEvent :=
  { event with merkleLeafHash := some (event.leaf hash) }

namespace RunStore

/-- `append_run_event` under `_event_append_lock`. -/
def logNewEvent (hash : MerkleHash) (draft : EventDraft) (uuid now : String) (s : RunStore) :
    RunEvent × RunStore :=
  let (sequence, s) := s.nextEventSequence draft.runId
  let event := draft.event hash sequence uuid now
  (event, s.appendRecord draft.runId event)

/-- `append_event` under `_event_append_lock`. -/
def logGivenEvent (hash : MerkleHash) (event : RunEvent) (s : RunStore) : RunEvent × RunStore :=
  let (sequence, s) :=
    if event.sequence ≤ 0 then s.nextEventSequence event.runId else (event.sequence, s)
  let event := ({ event with sequence } : RunEvent).withLeafHash hash
  (event, s.appendRecord event.runId event)

def cacheCoversAfter (cached : List RunEvent) (after : Int) : Bool :=
  match cached with
  | [] => true
  | first :: _ => first.sequence - 1 ≤ after

/-- The cached part of `list_run_events`, if the cache covers it. -/
def readCache (s : RunStore) (runId : String) (after : Int) : Option (List RunEvent) :=
  match s.cache[runId]? with
  | some cached =>
    if cacheCoversAfter cached after then
      some (cached.filter fun event => after < event.sequence)
    else none
  | none => none

end RunStore

/-- The atomic sections of the store's methods. -/
inductive StoreOp where
  /-- `append_run_event` under `_event_append_lock` -/
  | logNew (draft : EventDraft)
  /-- `append_event` under `_event_append_lock` -/
  | logGiven (event : RunEvent)
  /-- `_append_event_to_cache` -/
  | cacheEvent (runId : String) (event : RunEvent)
  /-- the cached part of `list_run_events` -/
  | readCache (runId : String) (after : Int)
  /-- reading the legacy file and the log of a run -/
  | readLog (runId : String)
  /-- replacing the cached tail by what was read -/
  | storeCache (runId : String) (events : List RunEvent)
  /-- `get_run_session` -/
  | getSession (runId : String)
  /-- the locked section of `save_run_session`; `read` is the session that the
  saved one was made from, which the code does not look at -/
  | saveSession (session : RunSession) (read : Option RunSession)
  /-- `_timestamp()` -/
  | timestamp
  /-- whether the vault writes the run out now -/
  | mirrorDue (runId : String) (force : Bool)

def StoreResp : StoreOp → Type
  | .logNew _ => RunEvent
  | .logGiven _ => RunEvent
  | .cacheEvent _ _ => Unit
  | .readCache _ _ => Option (List RunEvent)
  | .readLog _ => List RunEvent
  | .storeCache _ _ => Unit
  | .getSession _ => Option RunSession
  | .saveSession _ _ => RunSession
  | .timestamp => String
  | .mirrorDue _ _ => Bool

/-- What each section does.  The random part of an event id, the clock and the
moments at which the vault is due are arbitrary. -/
def storeStep (hash : MerkleHash) :
    (op : StoreOp) → RunStore → StoreResp op → RunStore → Prop
  | .logNew draft, s, event, t => ∃ uuid now, s.logNewEvent hash draft uuid now = (event, t)
  | .logGiven event, s, stamped, t => s.logGivenEvent hash event = (stamped, t)
  | .cacheEvent runId event, s, _, t => t = s.cacheEvent runId event
  | .readCache runId after, s, found, t => found = s.readCache runId after ∧ t = s
  | .readLog runId, s, events, t => events = s.diskEvents runId ∧ t = s
  | .storeCache runId events, s, _, t => t = s.storeCache runId events
  | .getSession runId, s, found, t => found = s.getRunSession runId ∧ t = s
  | .saveSession session _, s, stored, t => s.saveSession config session = (stored, t)
  | .timestamp, s, _, t => t = s
  | .mirrorDue _ force, s, due, t => (force = true → due = true) ∧ t = s

abbrev StoreProg (α : Type) := Prog StoreOp StoreResp α

namespace FileStateStore

def issue (op : StoreOp) : StoreProg (StoreResp op) := Prog.issue op

def logNew (draft : EventDraft) : StoreProg RunEvent := issue (.logNew draft)

def logGiven (event : RunEvent) : StoreProg RunEvent := issue (.logGiven event)

def cacheEvent (runId : String) (event : RunEvent) : StoreProg Unit :=
  issue (.cacheEvent runId event)

def readCache (runId : String) (after : Int) : StoreProg (Option (List RunEvent)) :=
  issue (.readCache runId after)

def readLog (runId : String) : StoreProg (List RunEvent) := issue (.readLog runId)

def storeCache (runId : String) (events : List RunEvent) : StoreProg Unit :=
  issue (.storeCache runId events)

variable (runId : String)

def getRunSession : StoreProg (Option RunSession) := issue (.getSession runId)

def saveSession (session : RunSession) (read : Option RunSession) : StoreProg RunSession :=
  issue (.saveSession session read)

def timestamp : StoreProg String := issue .timestamp

def mirrorDue (runId : String) (force : Bool) : StoreProg Bool := issue (.mirrorDue runId force)

def loadRunEventsFromDisk : StoreProg (List RunEvent) := do
  let events ← readLog runId
  storeCache runId events
  pure events

variable (hash : MerkleHash)

def getMerkleSnapshot (runId : String) : StoreProg MerkleSnapshot := do
  let events ← loadRunEventsFromDisk runId
  pure (buildMerkleSnapshot hash runId events)

def getMerkleProof (runId eventId : String) :
    StoreProg (Option MerkleProof) := do
  let events ← loadRunEventsFromDisk runId
  pure (buildMerkleProof hash runId events eventId)

def listRunEvents (after : Int) : StoreProg (List RunEvent) := do
  match ← readCache runId after with
  | some events => pure events
  | none =>
    let events ← loadRunEventsFromDisk runId
    pure (events.filter fun event => after < event.sequence)

/-- `_materialize_vault`, as far as it touches this state: it reads the log of
a run that has a session. -/
def materializeVault (force : Bool) : StoreProg Unit := do
  if ← mirrorDue runId force then
    match ← getRunSession runId with
    | none => pure ()
    | some _ =>
      let _ ← loadRunEventsFromDisk runId
      pure ()
  else pure ()

def saveRunSession (session : RunSession) (read : Option RunSession := none) :
    StoreProg RunSession := do
  let stored ← saveSession session read
  let terminal := vaultForceStages.contains stored.stage || vaultForceStages.contains stored.status
  materializeVault stored.runId terminal
  pure stored

def updateSnapshot (snapshot : RunSession) :
    StoreProg (Except PyError RunSession) :=
  if snapshot.runId ≠ runId then
    pure (valueError ("snapshot run_id " ++ pyRepr snapshot.runId ++ " does not match " ++
      pyRepr runId))
  else do
    let stored ← saveRunSession snapshot
    pure (.ok stored)

def advanceSessionEventCursor (runId : String) (event : RunEvent) :
    StoreProg Unit := do
  match ← getRunSession runId with
  | none => pure ()
  | some session =>
    if event.sequence < session.latestEventSequence then pure ()
    else
      let snapshot ← getMerkleSnapshot hash runId
      let now ← timestamp
      let _ ← saveRunSession
        { session with
          latestEventId := some event.eventId
          latestEventSequence := event.sequence
          latestMerkleRoot := some snapshot.rootHash
          updatedAt := now } (some session)
      pure ()

def appendRunEvent (draft : EventDraft) : StoreProg RunEvent := do
  let event ← logNew draft
  cacheEvent draft.runId event
  advanceSessionEventCursor hash draft.runId event
  pure event

def appendEvent (runId : String) (event : RunEvent) :
    StoreProg (Except PyError RunEvent) :=
  if event.runId ≠ runId then
    pure (valueError ("event run_id " ++ pyRepr event.runId ++ " does not match " ++
      pyRepr runId))
  else do
    let event ← logGiven event
    cacheEvent runId event
    advanceSessionEventCursor hash runId event
    pure (.ok event)

def recordOperatorNote (runId note : String) : StoreProg (Option RunSession) := do
  match ← getRunSession runId with
  | none => pure none
  | some session =>
    let now ← timestamp
    let changed := { session with
      operatorNotes := session.operatorNotes ++ [note]
      updatedAt := now }
    let _ ← saveRunSession changed (some session)
    pure (some changed)

def withApproval (artifacts : Dict) (approval : Json) : Dict :=
  match artifacts.get? "approvals" with
  | some (.arr approvals) => artifacts.set "approvals" (.arr (approvals ++ [approval]))
  | _ => artifacts.set "approvals" (.arr [approval])

def recordApproval (approval : Json) : StoreProg Unit := do
  match ← getRunSession runId with
  | none => pure ()
  | some session =>
    let now ← timestamp
    let _ ← saveRunSession { session with
      artifacts := withApproval session.artifacts approval
      updatedAt := now } (some session)
    pure ()

end FileStateStore

namespace RunStore

/-- Two states that differ in the cache only. -/
def SameFiles (s t : RunStore) : Prop :=
  t.runs = s.runs ∧ t.archive = s.archive ∧ t.legacyEvents = s.legacyEvents ∧
    t.eventLogs = s.eventLogs

variable (s : RunStore)

theorem SameFiles.refl : s.SameFiles s := ⟨rfl, rfl, rfl, rfl⟩

variable {t : RunStore}

theorem SameFiles.trans {s u : RunStore} (h : s.SameFiles t) (h' : t.SameFiles u) : s.SameFiles u :=
  ⟨h'.1.trans h.1, h'.2.1.trans h.2.1, h'.2.2.1.trans h.2.2.1, h'.2.2.2.trans h.2.2.2⟩

theorem sameFiles_storeCache (runId : String) (events : List RunEvent) :
    s.SameFiles (s.storeCache runId events) := ⟨rfl, rfl, rfl, rfl⟩

theorem SameFiles.getRunSession {s : RunStore} (h : s.SameFiles t) (runId : String) :
    t.getRunSession runId = s.getRunSession runId := by
  rw [RunStore.getRunSession, h.1, RunStore.getRunSession]

theorem SameFiles.records {s : RunStore} (h : s.SameFiles t) (runId : String) :
    t.records runId = s.records runId := by
  rw [RunStore.records, h.2.2.1, h.2.2.2, RunStore.records]

theorem SameFiles.diskEvents {s : RunStore} (h : s.SameFiles t) (runId : String) :
    t.diskEvents runId = s.diskEvents runId := by
  rw [RunStore.diskEvents, h.records, RunStore.diskEvents]

theorem sameFiles_nextEventSequence (runId : String) :
    s.SameFiles (s.nextEventSequence runId).2 := by
  unfold nextEventSequence
  split
  · split
    · exact .refl s
    · exact sameFiles_storeCache ..
  · exact sameFiles_storeCache ..

theorem sessions_logNewEvent (hash : MerkleHash) (draft : EventDraft) (uuid now : String)
    (s : RunStore) :
    (s.logNewEvent hash draft uuid now).2.runs = s.runs ∧
      (s.logNewEvent hash draft uuid now).2.archive = s.archive := by
  have hsame := sameFiles_nextEventSequence s draft.runId
  exact ⟨hsame.1, hsame.2.1⟩

def refreshed (runId : String) : RunStore :=
  s.storeCache runId (s.diskEvents runId)

end RunStore

namespace FileStateStore

variable {config : StoreConfig} {hash : MerkleHash} {s t : RunStore} {runId : String}

/-! One lemma for each section says what it answers and leaves. -/

variable {draft : EventDraft} {event : RunEvent} {u : Unit} {after : Int}
  {session stored : RunSession} {read : Option RunSession} {force : Bool}

@[simp] theorem logNew_completes :
    Completes (storeStep config hash) (logNew draft) s event t ↔
      ∃ uuid now, s.logNewEvent hash draft uuid now = (event, t) := completes_issue

@[simp] theorem logGiven_completes {stamped : RunEvent} :
    Completes (storeStep config hash) (logGiven event) s stamped t ↔
      s.logGivenEvent hash event = (stamped, t) := completes_issue

@[simp] theorem cacheEvent_completes :
    Completes (storeStep config hash) (cacheEvent runId event) s u t ↔
      t = s.cacheEvent runId event := completes_issue

@[simp] theorem readCache_completes {found : Option (List RunEvent)} :
    Completes (storeStep config hash) (readCache runId after) s found t ↔
      found = s.readCache runId after ∧ t = s := completes_issue

variable {events : List RunEvent}

@[simp] theorem readLog_completes :
    Completes (storeStep config hash) (readLog runId) s events t ↔
      events = s.diskEvents runId ∧ t = s := completes_issue

@[simp] theorem storeCache_completes :
    Completes (storeStep config hash) (storeCache runId events) s u t ↔
      t = s.storeCache runId events := completes_issue

@[simp] theorem getRunSession_completes {found : Option RunSession} :
    Completes (storeStep config hash) (getRunSession runId) s found t ↔
      found = s.getRunSession runId ∧ t = s := completes_issue

@[simp] theorem saveSession_completes :
    Completes (storeStep config hash) (saveSession session read) s stored t ↔
      s.saveSession config session = (stored, t) := completes_issue

@[simp] theorem timestamp_completes {now : String} :
    Completes (storeStep config hash) timestamp s now t ↔ t = s := completes_issue

@[simp] theorem mirrorDue_completes {due : Bool} :
    Completes (storeStep config hash) (mirrorDue runId force) s due t ↔
      (force = true → due = true) ∧ t = s := completes_issue

theorem load_completes :
    Completes (storeStep config hash) (loadRunEventsFromDisk runId) s events t ↔
      events = s.diskEvents runId ∧ t = s.refreshed runId := by
  simp only [loadRunEventsFromDisk, Prog.bind_eq, Prog.pure_eq, completes_bind,
    readLog_completes, storeCache_completes, completes_ret]
  constructor
  · rintro ⟨_, _, ⟨rfl, rfl⟩, -, _, rfl, rfl, rfl⟩
    exact ⟨rfl, rfl⟩
  · rintro ⟨rfl, rfl⟩
    exact ⟨_, s, ⟨rfl, rfl⟩, (), _, rfl, rfl, rfl⟩

theorem snapshot_completes {snapshot : MerkleSnapshot} :
    Completes (storeStep config hash) (getMerkleSnapshot hash runId) s snapshot t ↔
      snapshot = buildMerkleSnapshot hash runId (s.diskEvents runId) ∧ t = s.refreshed runId := by
  simp only [getMerkleSnapshot, Prog.bind_eq, Prog.pure_eq, completes_bind, load_completes,
    completes_ret]
  constructor
  · rintro ⟨_, _, ⟨rfl, rfl⟩, rfl, rfl⟩
    exact ⟨rfl, rfl⟩
  · rintro ⟨rfl, rfl⟩
    exact ⟨_, _, ⟨rfl, rfl⟩, rfl, rfl⟩

theorem list_completes {events : List RunEvent} :
    Completes (storeStep config hash) (listRunEvents runId after) s events t ↔
      (s.readCache runId after = some events ∧ t = s) ∨
        (s.readCache runId after = none ∧ t = s.refreshed runId ∧
          events = (s.diskEvents runId).filter fun event => after < event.sequence) := by
  simp only [listRunEvents, Prog.bind_eq, completes_bind, readCache_completes]
  constructor
  · rintro ⟨found, u, ⟨hfound, rfl⟩, hrest⟩
    cases found with
    | some cached =>
      simp only [Prog.pure_eq, completes_ret] at hrest
      exact .inl ⟨by rw [← hfound, hrest.1], hrest.2⟩
    | none =>
      simp only [Prog.pure_eq, completes_bind, load_completes, completes_ret] at hrest
      obtain ⟨_, _, ⟨rfl, rfl⟩, rfl, rfl⟩ := hrest
      exact .inr ⟨hfound.symm, rfl, rfl⟩
  · rintro (⟨hfound, rfl⟩ | ⟨hfound, rfl, rfl⟩)
    · exact ⟨some events, t, ⟨hfound.symm, rfl⟩, by simp⟩
    · refine ⟨none, s, ⟨hfound.symm, rfl⟩, ?_⟩
      simp only [Prog.pure_eq, completes_bind, load_completes, completes_ret]
      exact ⟨_, _, ⟨rfl, rfl⟩, rfl, rfl⟩

theorem materialize_completes
    (h : Completes (storeStep config hash) (materializeVault runId force) s u t) :
    t = s ∨ t = s.refreshed runId := by
  simp only [materializeVault, Prog.bind_eq, completes_bind, mirrorDue_completes] at h
  obtain ⟨due, _, ⟨-, rfl⟩, hrest⟩ := h
  cases due with
  | false => exact .inl (completes_ret.mp hrest).2
  | true =>
    simp only [if_true, completes_bind, getRunSession_completes] at hrest
    obtain ⟨found, _, ⟨-, rfl⟩, hrest⟩ := hrest
    cases found with
    | none => exact .inl (completes_ret.mp hrest).2
    | some session =>
      simp only [Prog.pure_eq, completes_bind, load_completes, completes_ret] at hrest
      obtain ⟨_, _, ⟨-, rfl⟩, -, rfl⟩ := hrest
      exact .inr rfl

theorem save_completes
    (h : Completes (storeStep config hash) (saveRunSession session read) s stored t) :
    ∃ u, s.saveSession config session = (stored, u) ∧
      (t = u ∨ t = u.refreshed stored.runId) := by
  simp only [saveRunSession, Prog.bind_eq, Prog.pure_eq, completes_bind, saveSession_completes,
    completes_ret] at h
  obtain ⟨_, u, hsave, _, v, hvault, rfl, rfl⟩ := h
  exact ⟨u, hsave, materialize_completes hvault⟩

def advanced (hash : MerkleHash) (s : RunStore) (session : RunSession) (event : RunEvent)
    (now : String) : RunSession :=
  { session with
    latestEventId := some event.eventId
    latestEventSequence := event.sequence
    latestMerkleRoot :=
      some (buildMerkleSnapshot hash session.runId (s.diskEvents session.runId)).rootHash
    updatedAt := now }

theorem advance_completes
    (h : Completes (storeStep config hash) (advanceSessionEventCursor hash runId event) s u t) :
    (s.getRunSession runId = none ∧ t = s) ∨
    (∃ session, s.getRunSession runId = some session ∧
      event.sequence < session.latestEventSequence ∧ t = s) ∨
    (∃ session now stored v, s.getRunSession runId = some session ∧
      session.latestEventSequence ≤ event.sequence ∧
      (s.refreshed runId).saveSession config (advanced hash s session event now) = (stored, v) ∧
      (t = v ∨ t = v.refreshed stored.runId)) := by
  simp only [advanceSessionEventCursor, Prog.bind_eq, completes_bind,
    getRunSession_completes] at h
  obtain ⟨found, _, ⟨hfound, rfl⟩, hrest⟩ := h
  cases found with
  | none => exact .inl ⟨hfound.symm, (completes_ret.mp hrest).2⟩
  | some session =>
    have hid : session.runId = runId := by
      have := List.find?_some hfound.symm
      simpa using this
    dsimp only at hrest
    split at hrest
    · next hlt => exact .inr (.inl ⟨session, hfound.symm, hlt, (completes_ret.mp hrest).2⟩)
    · next hge =>
      simp only [Prog.pure_eq, completes_bind, snapshot_completes, timestamp_completes,
        completes_ret] at hrest
      obtain ⟨_, _, ⟨rfl, rfl⟩, now, _, rfl, stored, v, hsave, -, rfl⟩ := hrest
      obtain ⟨w, hw, hfinal⟩ := save_completes hsave
      refine .inr (.inr ⟨session, now, stored, w, hfound.symm, by omega, ?_, hfinal⟩)
      rw [← hw, advanced, hid]

theorem appendRunEvent_completes
    (h : Completes (storeStep config hash) (appendRunEvent hash draft) s event t) :
    ∃ uuid now u, s.logNewEvent hash draft uuid now = (event, u) ∧
      Completes (storeStep config hash) (advanceSessionEventCursor hash draft.runId event)
        (u.cacheEvent draft.runId event) () t := by
  simp only [appendRunEvent, Prog.bind_eq, Prog.pure_eq, completes_bind, logNew_completes,
    cacheEvent_completes, completes_ret] at h
  obtain ⟨_, u, ⟨uuid, now, hlog⟩, _, _, rfl, _, v, hadvance, rfl, rfl⟩ := h
  exact ⟨uuid, now, u, hlog, hadvance⟩

theorem appendEvent_completes {given : RunEvent} {result : Except PyError RunEvent}
    (h : Completes (storeStep config hash) (appendEvent hash runId given) s result t) :
    (given.runId ≠ runId ∧ t = s) ∨
    (given.runId = runId ∧ ∃ event u, s.logGivenEvent hash given = (event, u) ∧
      result = .ok event ∧
      Completes (storeStep config hash) (advanceSessionEventCursor hash runId event)
        (u.cacheEvent runId event) () t) := by
  unfold appendEvent at h
  split at h
  · next hne => exact .inl ⟨hne, (completes_ret.mp h).2⟩
  · next heq =>
    simp only [Prog.bind_eq, Prog.pure_eq, completes_bind, logGiven_completes,
      cacheEvent_completes, completes_ret] at h
    obtain ⟨event, u, hlog, _, _, rfl, _, v, hadvance, rfl, rfl⟩ := h
    exact .inr ⟨not_not.mp heq, event, u, hlog, rfl, hadvance⟩

theorem updateSnapshot_completes {snapshot : RunSession} {result : Except PyError RunSession}
    (h : Completes (storeStep config hash) (updateSnapshot runId snapshot) s result t) :
    (snapshot.runId ≠ runId ∧ t = s) ∨
    (snapshot.runId = runId ∧ ∃ stored, result = .ok stored ∧
      Completes (storeStep config hash) (saveRunSession snapshot) s stored t) := by
  unfold updateSnapshot at h
  split at h
  · next hne => exact .inl ⟨hne, (completes_ret.mp h).2⟩
  · next heq =>
    simp only [Prog.bind_eq, Prog.pure_eq, completes_bind, completes_ret] at h
    obtain ⟨stored, _, hsave, rfl, rfl⟩ := h
    exact .inr ⟨not_not.mp heq, stored, rfl, hsave⟩

end FileStateStore

end OrbitalMesh
