import OrbitalMesh.ControlPlane.MerkleLog
import OrbitalMesh.ControlPlane.PostgresLog

/-!
# One run log in two stores

The two stores get the same calls, and draw the same ids and times.  An event that
`append_run_event` writes is not listed by the database as it was written: its time is
stored as an instant and comes back in another form (`new_events_drift`).  As long as
only events are given that the columns give back, each to the end of the log, the two
logs are one (`run_logs_are_one_log`).
-/

namespace OrbitalMesh.RunLogs

open Atomic PostgresStateStore FileStateStore

/-- An append: the event that each store returned, and whether it came with a leaf hash. -/
structure Appended where
  inFile : RunEvent
  inPostgres : RunEvent
  preset : Bool

structure Logs where
  appended : List Appended := []
  file : RunStore := {}
  database : LogTables := {}

def Logs.fileEvents (logs : Logs) (runId : String) : List RunEvent :=
  LogTables.ofRun (logs.appended.map Appended.inFile) runId

def Logs.postgresEvents (logs : Logs) (runId : String) : List RunEvent :=
  LogTables.ofRun (logs.appended.map Appended.inPostgres) runId

inductive Call where
  | createRunSession (request : RunRequest)
  | saveRunSession (session : RunSession)
  | appendRunEvent (draft : EventDraft)
  | appendEvent (runId : String) (given : RunEvent)

/-- The form of `datetime.now(timezone.utc).isoformat()`: a T after the date. -/
def IsIsoformat (text : String) : Prop := text.toList[10]? = some 'T'

/-- `if not event.merkle_leaf_hash`. -/
def hasHash (event : RunEvent) : Bool :=
  event.merkleLeafHash.any fun stored => stored != ""

/-- Both stores accept the call. -/
inductive Step (config : StoreConfig) (hash : MerkleHash) (columns : Columns) :
    Call → Logs → Logs → Prop
  | createRunSession {logs : Logs} {request : RunRequest} {runId now : String}
      {stored stored' : RunSession} {file : RunStore} {database : LogTables}
      (inFile : Completes (storeStep config hash)
        (saveRunSession (request.session runId now)) logs.file stored file)
      (inPostgres : logs.database.saveRunSession columns (request.session runId now) =
        .ok (stored', database)) :
      Step config hash columns (.createRunSession request) logs { logs with file, database }
  | saveRunSession {logs : Logs} {session stored stored' : RunSession} {file : RunStore}
      {database : LogTables}
      (inFile : Completes (storeStep config hash) (saveRunSession session)
        logs.file stored file)
      (inPostgres : logs.database.saveRunSession columns session = .ok (stored', database)) :
      Step config hash columns (.saveRunSession session) logs { logs with file, database }
  | appendRunEvent {logs : Logs} {draft : EventDraft} {uuid now later : String}
      {event event' : RunEvent} {file : RunStore} {database : LogTables}
      (clock : IsIsoformat now) (drawn : event = draft.event hash event.sequence uuid now)
      (inFile : Completes (storeStep config hash) (FileStateStore.appendRunEvent hash draft)
        logs.file event file)
      (inPostgres : logs.database.appendRunEvent hash columns draft uuid now later =
        .ok (event', database)) :
      Step config hash columns (.appendRunEvent draft) logs
        { appended := logs.appended ++ [⟨event, event', false⟩], file, database }
  | appendEvent {logs : Logs} {runId : String} {given event event' : RunEvent} {later : String}
      {file : RunStore} {database : LogTables}
      (inFile : Completes (storeStep config hash) (FileStateStore.appendEvent hash runId given)
        logs.file (.ok event) file)
      (inPostgres : logs.database.appendEvent hash columns runId given later =
        .ok (event', database)) :
      Step config hash columns (.appendEvent runId given) logs
        { appended := logs.appended ++ [⟨event, event', hasHash given⟩], file, database }

/-- Any number of calls that both stores accept, each of which meets a condition on the
state before it. -/
inductive Runs (config : StoreConfig) (hash : MerkleHash) (columns : Columns)
    (allowed : Call → Logs → Prop) : Logs → Prop
  | start : Runs config hash columns allowed {}
  | call {logs later : Logs} (call : Call) (earlier : Runs config hash columns allowed logs)
      (met : allowed call logs) (step : Step config hash columns call logs later) :
      Runs config hash columns allowed later

variable (config : StoreConfig) (hash : MerkleHash) (columns : Columns)

structure OneLog (logs : Logs) :
    Prop where
  file_lists : ∀ runId after events s,
    Completes (storeStep config hash) (listRunEvents runId after) logs.file
      events s →
      events.map RunEvent.said = ((bySequence (logs.fileEvents runId)).filter
        fun event => after < event.sequence).map RunEvent.said
  postgres_lists : ∀ runId after,
    (logs.database.listRunEvents columns runId after).map RunEvent.said =
      ((bySequence (logs.postgresEvents runId)).filter
        fun event => after < event.sequence).map RunEvent.said
  same_events : ∀ runId after events s,
    Completes (storeStep config hash) (listRunEvents runId after) logs.file
      events s →
      events.map RunEvent.said =
        (logs.database.listRunEvents columns runId after).map RunEvent.said
  same_root : ∀ runId snapshot s,
    Completes (storeStep config hash) (getMerkleSnapshot hash runId) logs.file
      snapshot s →
      snapshot.rootHash = (logs.database.getMerkleSnapshot hash columns runId).rootHash
  same_cursor : ∀ runId, (logs.file.getRunSession runId).map RunSession.cursor =
    (logs.database.getRunSession runId).map RunSession.cursor
  file_hashes : ∀ a ∈ logs.appended, a.preset = false → ∀ after events s,
    Completes (storeStep config hash) (listRunEvents a.inFile.runId after) logs.file
      events s → ∀ event ∈ events, event.eventId = a.inFile.eventId →
        event.merkleLeafHash = some (leafHashForPayload hash event.canonicalPayload)
  postgres_hashes : ∀ a ∈ logs.appended, a.preset = false → ∀ after,
    ∀ event ∈ logs.database.listRunEvents columns a.inPostgres.runId after,
      event.eventId = a.inPostgres.eventId →
        event.merkleLeafHash = some (leafHashForPayload hash event.canonicalPayload)

/-- The event goes to the end of its log.  One without a sequence does so in both stores if the
cursor is at the last event, or not set. -/
def Logs.PlacesLast (logs : Logs) (given : RunEvent) : Prop :=
  if given.sequence ≤ 0 then
    ∀ session, logs.file.getRunSession given.runId = some session →
      session.latestEventSequence = 0 ∨
        ∃ event ∈ logs.fileEvents given.runId, event.sequence = session.latestEventSequence
  else ∀ event ∈ logs.fileEvents given.runId, event.sequence < given.sequence

/-- The live file has room for a new session, and an appended event goes to the end of the log. -/
def Call.Met : Call → Logs → Prop
  | .createRunSession _, logs => logs.file.runs.length < config.maxRecords
  | .saveRunSession session, logs =>
    (logs.file.getRunSession session.runId).isSome = true ∨
      logs.file.runs.length < config.maxRecords
  | .appendRunEvent _, _ => False
  | .appendEvent _ given, logs => columns.ReadsBack given ∧ logs.PlacesLast given

section

variable {config : StoreConfig} {hash : MerkleHash} {s t : RunStore} {runId : String}

def mergedInto (s : RunStore) (session : RunSession) : RunSession :=
  match s.getRunSession session.runId with
  | some current => mergeSessionSnapshot session current
  | none => session

/-- **A save that the live file has room for** archives nothing. -/
theorem saveSession_roomy (h : s.Roomy config) {session : RunSession}
    (hroom : (s.getRunSession session.runId).isSome = true ∨ s.runs.length < config.maxRecords) :
    ∃ t, s.saveSession config session = (mergedInto s session, t) ∧ t.Roomy config ∧
      t.getRunSession session.runId = some (mergedInto s session) ∧
      (∀ other, other ≠ session.runId → t.getRunSession other = s.getRunSession other) ∧
      (∀ runId, t.records runId = s.records runId) ∧ t.cache = s.cache := by
  cases hlive : s.getRunSession session.runId with
  | some current =>
    have hmerged : mergedInto s session = mergeSessionSnapshot session current := by
      simp [mergedInto, hlive]
    obtain ⟨t, hsave, hroomy, hget, hothers, -, hrecords, hcache⟩ :=
      RunStore.saveSession_live h hlive
    rw [hmerged]
    exact ⟨t, hsave, hroomy, hget, hothers, hrecords, hcache⟩
  | none =>
    have hmerged : mergedInto s session = session := by simp [mergedInto, hlive]
    have hshort : s.runs.length < config.maxRecords := by simpa [hlive] using hroom
    have hnew : ∀ record ∈ s.runs, record.runId ≠ session.runId := fun record hrecord =>
      by simpa using List.find?_eq_none.mp hlive record hrecord
    have hplace : placeSession session s.runs = (session, session :: s.runs) := by
      obtain ⟨_, existing, _, hruns, hid, -⟩ | ⟨-, hplace⟩ := placeSession_cases session s.runs
      · exact absurd hid (hnew existing (by simp [hruns]))
      · exact hplace
    have hlen : (newestFirst (session :: s.runs)).length ≤ config.maxRecords := by
      rw [length_newestFirst]
      exact hshort
    have hids : ((session :: s.runs).map RunSession.runId).Nodup := by
      rw [List.map_cons, List.nodup_cons]
      refine ⟨fun hmem => ?_, h.nodup⟩
      obtain ⟨record, hrecord, hid⟩ := List.mem_map.mp hmem
      exact hnew record hrecord hid
    have hroomy : RunStore.Roomy config
        { s with runs := newestFirst (session :: s.runs) } :=
      ⟨((perm_newestFirst _).map _).nodup_iff.mpr hids, hlen⟩
    rw [hmerged]
    refine ⟨{ s with runs := newestFirst (session :: s.runs) }, ?_, hroomy, ?_, ?_,
      fun _ => rfl, rfl⟩
    · simp only [RunStore.saveSession, hplace]
      rw [List.take_of_length_le hlen, List.drop_of_length_le hlen, List.append_nil]
    · exact hroomy.getRunSession_eq (mem_newestFirst.mpr (List.mem_cons_self ..)) rfl
    · intro other hne
      cases hfound : s.getRunSession other with
      | none =>
        refine RunStore.getRunSession_eq_none fun record hrecord => ?_
        rcases List.mem_cons.mp (mem_newestFirst.mp hrecord) with rfl | hrecord
        · exact hne.symm
        · simpa using List.find?_eq_none.mp hfound record hrecord
      | some record =>
        obtain ⟨hrecord, hid⟩ := RunStore.getRunSession_spec hfound
        exact hroomy.getRunSession_eq
          (mem_newestFirst.mpr (List.mem_cons_of_mem _ hrecord)) hid

variable {session : RunSession}

/-- **A save** changes the session of one run; the vault may load the log after it. -/
theorem save_leaves (h : s.Roomy config) {stored : RunSession}
    (hroom : (s.getRunSession session.runId).isSome = true ∨ s.runs.length < config.maxRecords)
    (hcache : s.CacheFaithful) (hcut : ∀ runId, RunStore.CacheCut (s.diskEvents runId))
    (hsave : Completes (storeStep config hash) (saveRunSession session) s stored t) :
    t.Roomy config ∧ t.CacheFaithful ∧
      t.getRunSession session.runId = some (mergedInto s session) ∧
      (∀ other, other ≠ session.runId → t.getRunSession other = s.getRunSession other) ∧
      ∀ runId, t.records runId = s.records runId := by
  obtain ⟨u, hroomy, hget, hothers, hrecords, hucache, hfinal⟩ :
      ∃ u, u.Roomy config ∧ u.getRunSession session.runId = some (mergedInto s session) ∧
        (∀ other, other ≠ session.runId → u.getRunSession other = s.getRunSession other) ∧
        (∀ runId, u.records runId = s.records runId) ∧ u.cache = s.cache ∧
        (t = u ∨ t = u.refreshed stored.runId) := by
    obtain ⟨u, hu, hfinal⟩ := save_completes hsave
    obtain ⟨v, hv, hroomy, hget, hothers, hrecords, hvcache⟩ :=
      @saveSession_roomy config s h session hroom
    obtain ⟨-, rfl⟩ := Prod.mk.inj (hu.symm.trans hv)
    exact ⟨u, hroomy, hget, hothers, hrecords, hvcache, hfinal⟩
  have hdisk : ∀ runId, u.diskEvents runId = s.diskEvents runId := fun runId => by
    rw [RunStore.diskEvents, hrecords, RunStore.diskEvents]
  have hufaithful : u.CacheFaithful := fun runId cached hcached => by
    rw [hdisk]
    exact hcache runId cached (by rw [← hucache]; exact hcached)
  rcases hfinal with rfl | rfl
  · exact ⟨hroomy, hufaithful, hget, hothers, hrecords⟩
  · refine ⟨hroomy.of_runs_eq rfl, hufaithful.refreshed ?_, hget, hothers, hrecords⟩
    rw [hdisk]
    exact hcut _

/-- **Moving the cursor** of a live session changes that session at most. -/
theorem advance_live (h : s.Roomy config) {event : RunEvent}
    (hget : s.getRunSession runId = some session)
    (hadvance : Completes (storeStep config hash)
      (advanceSessionEventCursor hash runId event) s () t) :
    t.Roomy config ∧
      (∃ later, t.getRunSession runId = some later ∧
        later.cursor = if session.latestEventSequence ≤ event.sequence then
            (event.sequence, some (buildMerkleSnapshot hash runId (s.diskEvents runId)).rootHash)
          else session.cursor) ∧
      ∀ other, other ≠ runId → t.getRunSession other = s.getRunSession other := by
  obtain ⟨hnone, -⟩ | ⟨found, hfound, hlt, rfl⟩ | ⟨found, now, stored, u, hfound, hle, hsave, ht⟩ :=
    advance_completes hadvance
  · simp [hnone] at hget
  · obtain rfl := Option.some.inj (hfound.symm.trans hget)
    exact ⟨h, ⟨found, hget, by rw [if_neg (by omega)]⟩, fun _ _ => rfl⟩
  · obtain rfl := Option.some.inj (hfound.symm.trans hget)
    have hid : found.runId = runId := (RunStore.getRunSession_spec hget).2
    set moved := advanced hash s found event now
    have hrefreshed : (s.refreshed runId).Roomy config := h.of_runs_eq rfl
    have hlive : (s.refreshed runId).getRunSession moved.runId = some found := by
      rw [show moved.runId = runId from hid]
      exact hget
    obtain ⟨v, hv, hroomy, hlater, hothers, -, -, -⟩ :=
      RunStore.saveSession_live hrefreshed hlive
    obtain ⟨-, rfl⟩ := Prod.mk.inj (hsave.symm.trans hv)
    have hfiles : u.SameFiles t := by
      rcases ht with rfl | rfl
      · exact .refl _
      · exact RunStore.sameFiles_storeCache ..
    refine ⟨hroomy.of_runs_eq hfiles.1, ⟨mergeSessionSnapshot moved found, ?_, ?_⟩, ?_⟩
    · rw [hfiles.getRunSession, ← hid]
      exact hlater
    · rw [mergeSessionSnapshot_cursor_eq, if_pos hle,
        if_pos (show found.latestEventSequence ≤ moved.latestEventSequence from hle), ← hid]
      rfl
    · intro other hne
      have hmovedId : other ≠ moved.runId := fun heq => hne (heq.trans hid)
      rw [hfiles.getRunSession, hothers other hmovedId]
      rfl

end

section

variable {events : List RunEvent}

/-- A log that was written in order is read as it stands. -/
theorem loadEvents_of_increasing (hids : (events.map RunEvent.eventId).Nodup)
    (horder : events.Pairwise fun a b => a.sequence < b.sequence) : loadEvents events = events := by
  induction events using List.reverseRecOn with
  | nil => rfl
  | append_singleton rest event ih =>
    rw [List.map_append, List.nodup_append] at hids
    rw [List.pairwise_append] at horder
    have hrest := ih hids.1 horder.1
    have hlast : ∀ known ∈ loadEvents rest,
        known.eventId ≠ event.eventId ∧ known.sequence < event.sequence := by
      intro known hknown
      rw [hrest] at hknown
      exact ⟨hids.2.2 _ (List.mem_map_of_mem hknown) _ (by simp),
        horder.2.2 known hknown event (by simp)⟩
    rw [loadEvents_concat_of_new hlast, hrest]

theorem bySequence_of_increasing (horder : events.Pairwise fun a b => a.sequence < b.sequence) :
    bySequence events = events :=
  List.Pairwise.insertionSort_eq (horder.imp Int.le_of_lt)

theorem cacheCut_of_increasing (horder : events.Pairwise fun a b => a.sequence < b.sequence) :
    RunStore.CacheCut events := by
  intro x hx y hy
  have hsplit : (events.take (events.length - eventCacheSize) ++
      SortedTail.lastOf eventCacheSize events).Pairwise fun a b => a.sequence < b.sequence := by
    rw [SortedTail.take_append_lastOf]
    exact horder
  exact (List.pairwise_append.mp hsplit).2.2 x hx y hy

end

/-- The two stores hold the same log, in the order of its sequences, and the cursors of
the sessions are not behind it. -/
structure Synced (logs : Logs) :
    Prop where
  roomy : logs.file.Roomy config
  cache : logs.file.CacheFaithful
  keyed : logs.database.Keyed
  records : ∀ runId, logs.file.records runId = logs.fileEvents runId
  returned : ∀ a ∈ logs.appended, a.inPostgres = a.inFile
  rows : List.Forall₂ columns.Writes (logs.appended.map Appended.inFile) logs.database.events
  readsBack : ∀ a ∈ logs.appended, columns.ReadsBack a.inFile
  increasing : ∀ runId, (logs.fileEvents runId).Pairwise fun a b => a.sequence < b.sequence
  ids : ((logs.appended.map Appended.inFile).map RunEvent.eventId).Nodup
  hashes : ∀ a ∈ logs.appended, a.preset = false →
    a.inFile.merkleLeafHash = some (leafHashForPayload hash a.inFile.canonicalPayload)
  positive : ∀ a ∈ logs.appended, 0 < a.inFile.sequence
  reached : ∀ a ∈ logs.appended, ∃ session,
    logs.file.getRunSession a.inFile.runId = some session ∧
      a.inFile.sequence ≤ session.latestEventSequence
  cursors : ∀ runId, (logs.file.getRunSession runId).map RunSession.cursor =
    (logs.database.getRunSession runId).map RunSession.cursor

section

variable {config : StoreConfig} {hash : MerkleHash} {columns : Columns} {logs : Logs}

theorem Synced.start : Synced config hash columns {} where
  roomy := ⟨List.nodup_nil, Nat.zero_le _⟩
  cache := fun runId cached hcached => by simp at hcached
  keyed := fun row hrow => by cases hrow
  records := fun runId => by simp [RunStore.records, Logs.fileEvents, LogTables.ofRun]
  returned := fun a ha => by cases ha
  rows := .nil
  readsBack := fun a ha => by cases ha
  increasing := fun runId => .nil
  ids := List.nodup_nil
  hashes := fun a ha => by cases ha
  positive := fun a ha => by cases ha
  reached := fun a ha => by cases ha
  cursors := fun runId => rfl

section

variable (h : Synced config hash columns logs)

include h

theorem Synced.diskEvents (runId : String) :
    logs.file.diskEvents runId = logs.fileEvents runId := by
  have hids : ((logs.fileEvents runId).map RunEvent.eventId).Nodup :=
    (List.filter_sublist.map _).nodup h.ids
  rw [RunStore.diskEvents, h.records, loadEvents_of_increasing hids (h.increasing runId)]

theorem Synced.cacheCut (runId : String) : RunStore.CacheCut (logs.file.diskEvents runId) := by
  rw [h.diskEvents]
  exact cacheCut_of_increasing (h.increasing runId)

theorem Synced.event_eq {a b : Appended} (ha : a ∈ logs.appended) (hb : b ∈ logs.appended)
    (hid : a.inFile.eventId = b.inFile.eventId) : a.inFile = b.inFile :=
  List.inj_on_of_nodup_map h.ids (List.mem_map_of_mem ha) (List.mem_map_of_mem hb) hid

theorem Synced.postgresEvents (runId : String) :
    logs.postgresEvents runId = logs.fileEvents runId := by
  rw [Logs.postgresEvents, Logs.fileEvents, List.map_congr_left h.returned]

variable {runId : String}

theorem Synced.file_lists {after : Int} {events : List RunEvent} {s : RunStore}
    (hlist : Completes (storeStep config hash) (listRunEvents runId after) logs.file events s) :
    events = (logs.fileEvents runId).filter fun event => after < event.sequence := by
  rw [← h.diskEvents]
  obtain ⟨hread, -⟩ | ⟨-, -, hloaded⟩ := list_completes.mp hlist
  · exact h.cache.readCache hread
  · exact hloaded

theorem Synced.postgres_lists (runId : String)
    (after : Int) :
    (logs.database.listRunEvents columns runId after).map RunEvent.said =
      ((logs.fileEvents runId).filter fun event => after < event.sequence).map RunEvent.said := by
  refine filter_said after (LogTables.listEvents_said h.rows ?_ (h.increasing runId))
  intro event hevent
  obtain ⟨a, ha, rfl⟩ := List.mem_map.mp hevent
  exact h.readsBack a ha

theorem Synced.oneLog : OneLog config hash columns logs := by
  have hordered : ∀ runId, bySequence (logs.fileEvents runId) = logs.fileEvents runId :=
    fun runId => bySequence_of_increasing (h.increasing runId)
  have hmem : ∀ {runId event}, event ∈ logs.fileEvents runId →
      ∃ a ∈ logs.appended, a.inFile = event := fun hevent =>
    List.mem_map.mp (List.mem_of_mem_filter hevent)
  constructor
  · intro runId after events s hlist
    rw [h.file_lists hlist, hordered]
  · intro runId after
    rw [h.postgresEvents, hordered]
    exact h.postgres_lists runId after
  · intro runId after events s hlist
    rw [h.file_lists hlist, h.postgres_lists]
  · intro runId snapshot s hsnapshot
    obtain ⟨rfl, -⟩ := snapshot_completes.mp hsnapshot
    rw [h.diskEvents]
    refine rootHash_congr ?_
    have hall : (logs.fileEvents runId).filter (fun event => 0 < event.sequence) =
        logs.fileEvents runId := by
      refine List.filter_eq_self.mpr fun event hevent => ?_
      obtain ⟨a, ha, rfl⟩ := hmem hevent
      simpa using h.positive a ha
    rw [h.postgres_lists, hall]
  · exact h.cursors
  · intro a ha hpreset after events s hlist event hevent hid
    rw [h.file_lists hlist] at hevent
    obtain ⟨b, hb, rfl⟩ := hmem (List.mem_of_mem_filter hevent)
    rw [h.event_eq hb ha hid]
    exact h.hashes a ha hpreset
  · intro a ha hpreset after event hevent hid
    have hsaid := List.mem_map_of_mem (f := RunEvent.said) hevent
    rw [h.postgres_lists] at hsaid
    obtain ⟨written, hwritten, hsame⟩ := List.mem_map.mp hsaid
    obtain ⟨b, hb, rfl⟩ := hmem (List.mem_of_mem_filter hwritten)
    have hcontent : b.inFile.canonicalPayload.canon = event.canonicalPayload.canon :=
      congrArg Prod.fst hsame
    have hbid : b.inFile.eventId = a.inFile.eventId := by
      rw [eventId_eq_of_canon_eq hcontent, hid, h.returned a ha]
    have hleaf := h.hashes a ha hpreset
    rw [← h.event_eq hb ha hbid] at hleaf
    rw [← show b.inFile.merkleLeafHash = event.merkleLeafHash from congrArg Prod.snd hsame, hleaf]
    exact congrArg (fun content => some (hash.ofLeaf content)) hcontent

theorem Synced.merged_cursor (session : RunSession) :
    (mergedInto logs.file session).cursor = (logs.database.merged session).cursor := by
  have hcursor := h.cursors session.runId
  unfold mergedInto LogTables.merged
  cases hfile : logs.file.getRunSession session.runId with
  | none =>
    rw [hfile, Option.map_none] at hcursor
    rw [Option.map_eq_none_iff.mp hcursor.symm]
  | some current =>
    rw [hfile, Option.map_some] at hcursor
    obtain ⟨other, hother, hsame⟩ := Option.map_eq_some_iff.mp hcursor.symm
    rw [hother]
    rw [mergeSessionSnapshot_cursor_eq, mergeSessionSnapshot_cursor_eq, hsame,
      show other.latestEventSequence = current.latestEventSequence from congrArg Prod.fst hsame]

/-- **A save** keeps the stores in step. -/
theorem Synced.save {session stored stored' : RunSession} {file : RunStore} {database : LogTables}
    (hroom : (logs.file.getRunSession session.runId).isSome = true ∨
      logs.file.runs.length < config.maxRecords)
    (hfile : Completes (storeStep config hash) (saveRunSession session) logs.file
      stored file)
    (hpostgres : logs.database.saveRunSession columns session = .ok (stored', database)) :
    Synced config hash columns { logs with file, database } := by
  obtain ⟨hroomy, hcache, hget, hothers, hrecords⟩ :=
    save_leaves h.roomy hroom h.cache h.cacheCut hfile
  obtain ⟨rfl, hevents, hgetRow, hotherRows⟩ := LogTables.saveRunSession_spec hpostgres
  exact
    { roomy := hroomy
      cache := hcache
      keyed := h.keyed.saveRunSession hpostgres
      records := fun runId => (hrecords runId).trans (h.records runId)
      returned := h.returned
      rows := by
        rw [hevents]
        exact h.rows
      readsBack := h.readsBack
      increasing := h.increasing
      ids := h.ids
      hashes := h.hashes
      positive := h.positive
      reached := fun a ha => by
        obtain ⟨current, hcurrent, hle⟩ := h.reached a ha
        by_cases hrun : a.inFile.runId = session.runId
        · rw [hrun] at hcurrent ⊢
          refine ⟨_, hget, ?_⟩
          rw [show mergedInto logs.file session = mergeSessionSnapshot session current by
            simp [mergedInto, hcurrent], mergeSessionSnapshot_cursor]
          exact le_max_of_le_right hle
        · exact ⟨current, (hothers _ hrun).trans hcurrent, hle⟩
      cursors := fun runId => by
        by_cases hrun : runId = session.runId
        · rw [hrun, hget, hgetRow, Option.map_some, Option.map_some, h.merged_cursor]
        · rw [hothers _ hrun, hotherRows _ hrun]
          exact h.cursors runId }

theorem Synced.behind {session : RunSession} (hget : logs.file.getRunSession runId = some session)
    {event : RunEvent} (hevent : event ∈ logs.fileEvents runId) :
    0 < event.sequence ∧ event.sequence ≤ session.latestEventSequence := by
  obtain ⟨hmem, hrun⟩ := List.mem_filter.mp hevent
  obtain ⟨a, ha, rfl⟩ := List.mem_map.mp hmem
  obtain ⟨found, hfound, hle⟩ := h.reached a ha
  rw [show a.inFile.runId = runId by simpa using hrun] at hfound
  obtain rfl := Option.some.inj (hfound.symm.trans hget)
  exact ⟨h.positive a ha, hle⟩

/-- **The next sequence** is the same in both stores if the cursor of the session is at the
last event, or not set. -/
theorem Synced.next {runId : String} {session : RunSession}
    (hget : logs.file.getRunSession runId = some session)
    (hend : session.latestEventSequence = 0 ∨
      ∃ event ∈ logs.fileEvents runId, event.sequence = session.latestEventSequence) :
    (logs.file.nextEventSequence runId).1 = session.latestEventSequence + 1 ∧
      logs.database.nextSequence runId = session.latestEventSequence + 1 ∧
      0 ≤ session.latestEventSequence := by
  rw [LogTables.nextSequence_eq h.rows]
  rcases hend with hzero | ⟨last, hlast, hsequence⟩
  · have hempty : logs.fileEvents runId = [] := by
      refine List.eq_nil_iff_forall_not_mem.mpr fun event hevent => ?_
      obtain ⟨hpositive, hle⟩ := h.behind hget hevent
      omega
    refine ⟨RunStore.nextEventSequence_eq hget (.inl ⟨hzero, ?_⟩), ?_, by omega⟩
    · rw [h.records, hempty]
    · rw [show LogTables.ofRun (logs.appended.map Appended.inFile) runId = [] from hempty, hzero]
      rfl
  · obtain ⟨hpositive, -⟩ := h.behind hget hlast
    refine ⟨RunStore.nextEventSequence_eq hget (.inr (by omega)), ?_, by omega⟩
    have hmax : ((logs.fileEvents runId).map RunEvent.sequence).max? =
        some session.latestEventSequence := by
      refine List.max?_eq_some_iff.mpr ⟨?_, fun sequence hmem => ?_⟩
      · rw [← hsequence]
        exact List.mem_map_of_mem hlast
      · obtain ⟨event, hevent, rfl⟩ := List.mem_map.mp hmem
        exact (h.behind hget hevent).2
    rw [show ((LogTables.ofRun (logs.appended.map Appended.inFile) runId).map
      RunEvent.sequence).max? = _ from hmax]
    rfl

theorem Synced.getRunSession_iff (runId : String) :
    (∃ session, logs.file.getRunSession runId = some session) ↔
      ∃ session, logs.database.getRunSession runId = some session := by
  have hsome := congrArg Option.isSome (h.cursors runId)
  rw [Option.isSome_map, Option.isSome_map] at hsome
  rw [← Option.isSome_iff_exists, ← Option.isSome_iff_exists, hsome]

end

theorem ofRun_append (events : List RunEvent) (event : RunEvent) (runId : String) :
    LogTables.ofRun (events ++ [event]) runId =
      LogTables.ofRun events runId ++ if event.runId = runId then [event] else [] := by
  by_cases hrun : event.runId = runId
  · simp [LogTables.ofRun, hrun]
  · simp [LogTables.ofRun, hrun]

variable {event : RunEvent}

/-- **An event at the end of its log** keeps the stores in step. -/
theorem Synced.append (h : Synced config hash columns logs) {preset : Bool} {session : RunSession}
    {u file : RunStore} {database : LogTables} {now : String} (hback : columns.ReadsBack event)
    (hpositive : 0 < event.sequence)
    (habove : ∀ known ∈ logs.fileEvents event.runId, known.sequence < event.sequence)
    (hhash : preset = false →
      event.merkleLeafHash = some (leafHashForPayload hash event.canonicalPayload))
    (hlive : logs.file.getRunSession event.runId = some session)
    (hlogs : RunStore.Logs event.runId event logs.file u)
    (hcache : u.cache = logs.file.cache ∨ u.cache = (logs.file.refreshed event.runId).cache)
    (hadvance : Completes (storeStep config hash)
      (advanceSessionEventCursor hash event.runId event)
      (u.cacheEvent event.runId event) () file)
    (hrecord : logs.database.record hash columns event now = .ok database) :
    Synced config hash columns
      { appended := logs.appended ++ [⟨event, event, preset⟩], file, database } := by
  obtain ⟨⟨row, hwrites, hevents⟩, hnewRow, hkeyed, hotherRows, hcursorRow⟩ :=
    LogTables.record_spec h.keyed hrecord
  set later : Logs := { appended := logs.appended ++ [⟨event, event, preset⟩], file, database }
  have hinFile : later.appended.map Appended.inFile =
      logs.appended.map Appended.inFile ++ [event] := by simp [later]
  have hforall : ∀ {P : Appended → Prop}, (∀ a ∈ logs.appended, P a) → P ⟨event, event, preset⟩ →
      ∀ a ∈ later.appended, P a := fun hall hlast a ha =>
    (List.mem_append.mp ha).elim (hall a) fun hmem => List.mem_singleton.mp hmem ▸ hlast
  have hnew : ∀ known ∈ logs.appended.map Appended.inFile, known.eventId ≠ event.eventId := by
    intro known hknown hsame
    have hid : event.eventId ∈ logs.database.events.map PostgresStateStore.EventRow.eventId := by
      rw [LogTables.eventIds_of_writes h.rows, ← hsame]
      exact List.mem_map_of_mem hknown
    obtain ⟨stored, hstored, hstoredId⟩ := List.mem_map.mp hid
    exact hnewRow stored hstored hstoredId
  have hself : later.fileEvents event.runId = logs.fileEvents event.runId ++ [event] := by
    rw [Logs.fileEvents, hinFile, ofRun_append, if_pos rfl]
    rfl
  have hothers : ∀ runId, runId ≠ event.runId →
      later.fileEvents runId = logs.fileEvents runId := fun runId hne => by
    rw [Logs.fileEvents, hinFile, ofRun_append, if_neg hne.symm, List.append_nil]
    rfl
  have hincreasing : ∀ runId,
      (later.fileEvents runId).Pairwise fun a b => a.sequence < b.sequence := by
    intro runId
    by_cases hrun : runId = event.runId
    · rw [hrun, hself]
      refine List.pairwise_append.mpr ⟨h.increasing _, List.pairwise_singleton .., ?_⟩
      intro known hknown last hlast
      exact List.mem_singleton.mp hlast ▸ habove known hknown
    · rw [hothers runId hrun]
      exact h.increasing runId
  have hrows : List.Forall₂ columns.Writes (later.appended.map Appended.inFile)
      database.events := by
    rw [hinFile, hevents]
    exact List.rel_append h.rows (.cons hwrites .nil)
  have hreads : ∀ a ∈ later.appended, columns.ReadsBack a.inFile := hforall h.readsBack hback
  have hrecords : ∀ runId, file.records runId = later.fileEvents runId := by
    intro runId
    rw [records_of_advance hadvance]
    show u.records runId = _
    by_cases hrun : runId = event.runId
    · rw [hrun, hlogs.records, hself, h.records]
    · rw [hlogs.others runId hrun, hothers runId hrun, h.records]
  have hids : ((later.appended.map Appended.inFile).map RunEvent.eventId).Nodup := by
    rw [hinFile, List.map_append, List.nodup_append]
    refine ⟨h.ids, List.nodup_singleton _, ?_⟩
    intro id hid other hother heq
    obtain ⟨known, hknown, rfl⟩ := List.mem_map.mp hid
    exact hnew known hknown (heq.trans (List.mem_singleton.mp hother))
  -- the file store's log of the run, and with it its root
  have hload : loadEvents (later.fileEvents event.runId) = later.fileEvents event.runId :=
    loadEvents_of_increasing ((List.filter_sublist.map _).nodup hids) (hincreasing _)
  have hdisk : (u.cacheEvent event.runId event).diskEvents event.runId =
      later.fileEvents event.runId := by
    rw [← hload, RunStore.diskEvents]
    refine congrArg loadEvents ?_
    show u.records event.runId = _
    rw [hlogs.records, h.records, hself]
  have hroot : (buildMerkleSnapshot hash event.runId
      (database.listEvents columns event.runId)).rootHash =
        (buildMerkleSnapshot hash event.runId (later.fileEvents event.runId)).rootHash := by
    refine rootHash_congr (LogTables.listEvents_said hrows (fun written hwritten => ?_)
      (hincreasing _))
    obtain ⟨a, ha, rfl⟩ := List.mem_map.mp hwritten
    exact hreads a ha
  have hroomy : (u.cacheEvent event.runId event).Roomy config := h.roomy.of_runs_eq hlogs.runs
  have hget : ∀ runId, (u.cacheEvent event.runId event).getRunSession runId =
      logs.file.getRunSession runId := fun runId => by
    rw [RunStore.getRunSession, show (u.cacheEvent event.runId event).runs = _ from hlogs.runs,
      RunStore.getRunSession]
  obtain ⟨hroomy', ⟨moved, hmoved, hcursor⟩, hkept⟩ :=
    advance_live hroomy ((hget _).trans hlive) hadvance
  rw [hdisk] at hcursor
  have hgetOther : ∀ runId, runId ≠ event.runId →
      file.getRunSession runId = logs.file.getRunSession runId :=
    fun runId hne => (hkept runId hne).trans (hget runId)
  have hmovedLe : event.sequence ≤ moved.latestEventSequence ∧
      session.latestEventSequence ≤ moved.latestEventSequence := by
    have hfirst : moved.latestEventSequence = _ := congrArg Prod.fst hcursor
    rw [hfirst]
    split
    · next hle => exact ⟨Int.le_refl _, hle⟩
    · next hlt => exact ⟨by show event.sequence ≤ session.latestEventSequence; omega, Int.le_refl _⟩
  have hfaithful : file.CacheFaithful := by
    refine h.cache.append ⟨?_, .inl fun known hknown => ?_⟩ hlogs hcache hadvance
    · rw [h.records, ← hself, hload]
      exact cacheCut_of_increasing (hincreasing _)
    · rw [h.diskEvents] at hknown
      exact ⟨hnew known (List.mem_of_mem_filter hknown), habove known hknown⟩
  exact
    { roomy := hroomy'
      cache := hfaithful
      keyed := hkeyed
      records := hrecords
      returned := hforall h.returned rfl
      rows := hrows
      readsBack := hreads
      increasing := hincreasing
      ids := hids
      hashes := hforall h.hashes hhash
      positive := hforall h.positive hpositive
      reached := hforall
        (fun a ha => by
          obtain ⟨current, hcurrent, hle⟩ := h.reached a ha
          by_cases hrun : a.inFile.runId = event.runId
          · rw [hrun] at hcurrent ⊢
            obtain rfl := Option.some.inj (hcurrent.symm.trans hlive)
            exact ⟨moved, hmoved, hle.trans hmovedLe.2⟩
          · exact ⟨current, (hgetOther _ hrun).trans hcurrent, hle⟩)
        ⟨moved, hmoved, hmovedLe.1⟩
      cursors := fun runId => by
        show (file.getRunSession runId).map _ = (database.getRunSession runId).map _
        by_cases hrun : runId = event.runId
        · have hsame := h.cursors event.runId
          rw [hlive, Option.map_some] at hsame
          obtain ⟨current, hcurrent, hcurrentCursor⟩ := Option.map_eq_some_iff.mp hsame.symm
          rw [hrun, hcursorRow, hmoved, hcurrent, Option.map_some, Option.map_some, hcursor, hroot,
            hcurrentCursor, show current.latestEventSequence = session.latestEventSequence from
              congrArg Prod.fst hcurrentCursor]
        · rw [hgetOther runId hrun, hotherRows runId hrun]
          exact h.cursors runId }

theorem withLeafHash_hash (h : hasHash event = false) :
    (event.withLeafHash hash).merkleLeafHash =
      some (leafHashForPayload hash (event.withLeafHash hash).canonicalPayload) := by
  have hleaf : event.leaf hash = leafHashForPayload hash event.canonicalPayload := by
    unfold hasHash at h
    unfold RunEvent.leaf
    cases hstored : event.merkleLeafHash with
    | none => rfl
    | some stored =>
      have hempty : stored = "" := by simpa [hstored] using h
      simp [hempty]
  exact congrArg some hleaf

section

variable (h : Synced config hash columns logs)

include h

theorem Synced.stamped_eq {given : RunEvent}
    {session : RunSession} (hget : logs.file.getRunSession given.runId = some session)
    (hlast : logs.PlacesLast given) :
    logs.database.stamped hash given = logs.file.stamped hash given ∧
      0 < (logs.file.stamped hash given).sequence ∧
      ∀ known ∈ logs.fileEvents given.runId,
        known.sequence < (logs.file.stamped hash given).sequence := by
  have hsequence : (logs.file.stamped hash given).sequence = logs.file.givenSequence given := rfl
  rw [hsequence]
  unfold Logs.PlacesLast at hlast
  unfold LogTables.stamped RunStore.stamped
  by_cases hauto : given.sequence ≤ 0
  · rw [if_pos hauto] at hlast
    obtain ⟨hfile, hpostgres, hnonneg⟩ := h.next hget (hlast session hget)
    have hgiven : logs.file.givenSequence given = session.latestEventSequence + 1 := by
      rw [RunStore.givenSequence, if_pos hauto, hfile]
    rw [hgiven]
    refine ⟨by rw [if_pos hauto, hpostgres], by omega, fun known hknown => ?_⟩
    have hle := (h.behind hget hknown).2
    omega
  · rw [if_neg hauto] at hlast
    have hgiven : logs.file.givenSequence given = given.sequence := by
      rw [RunStore.givenSequence, if_neg hauto]
    rw [hgiven]
    exact ⟨by rw [if_neg hauto], by omega, hlast⟩

/-- **A given event** that goes to the end of the log keeps the stores in step. -/
theorem Synced.appendEvent {runId : String}
    {given event event' : RunEvent} {later : String} {file : RunStore} {database : LogTables}
    (hback : columns.ReadsBack given) (hlast : logs.PlacesLast given)
    (hfile : Completes (storeStep config hash) (FileStateStore.appendEvent hash runId given)
      logs.file (.ok event) file)
    (hpostgres : logs.database.appendEvent hash columns runId given later =
      .ok (event', database)) :
    Synced config hash columns
      { appended := logs.appended ++ [⟨event, event', hasHash given⟩], file, database } := by
  obtain ⟨rfl, hrow, rfl, hrecord⟩ := LogTables.appendEvent_spec hpostgres
  obtain ⟨session, hget⟩ := (h.getRunSession_iff _).mpr hrow
  obtain ⟨hsame, hpositive, habove⟩ := @Synced.stamped_eq _ hash _ _ h _ _ hget hlast
  obtain ⟨hne, -⟩ | ⟨-, stamped, u, hlog, hresult, hadvance⟩ :=
    appendEvent_completes hfile
  · exact absurd rfl hne
  · cases hresult
    obtain ⟨rfl, hlogs, hcache⟩ := RunStore.logGivenEvent_spec hlog
    rw [hsame] at hrecord ⊢
    refine h.append ⟨hback.recordedAt, hback.payload, hback.summary⟩ hpositive habove
      (fun hpreset => withLeafHash_hash hpreset) hget hlogs ?_ hadvance hrecord
    split at hcache
    · rcases RunStore.nextEventSequence_store logs.file given.runId with hstore | hstore
      · exact .inl (hcache.trans (congrArg RunStore.cache hstore))
      · exact .inr (hcache.trans (congrArg RunStore.cache hstore))
    · exact .inl hcache

/-- **One call** that meets the condition keeps the stores in step. -/
theorem Synced.step {call : Call} {later : Logs}
    (hmet : call.Met config columns logs) (hstep : Step config hash columns call logs later) :
    Synced config hash columns later := by
  cases hstep with
  | createRunSession hfile hpostgres => exact h.save (.inr hmet) hfile hpostgres
  | saveRunSession hfile hpostgres => exact h.save hmet hfile hpostgres
  | appendRunEvent => exact hmet.elim
  | appendEvent hfile hpostgres => exact h.appendEvent hmet.1 hmet.2 hfile hpostgres

end

theorem Runs.synced (h : Runs config hash columns (Call.Met config columns) logs) :
    Synced config hash columns logs := by
  induction h with
  | start => exact .start
  | call call _ hmet hstep ih => exact ih.step hmet hstep

/-- **The run logs are one log**, with one root and one cursor, after any calls that both stores
accept and that meet the condition. -/
theorem run_logs_are_one_log (config : StoreConfig) (hash : MerkleHash) (columns : Columns)
    (logs : Logs) (h : Runs config hash columns (Call.Met config columns) logs) :
    OneLog config hash columns logs := h.synced.oneLog

end

/-- The rows of the database were written for the events that it returned, each with an id
of its own. -/
structure Written (logs : Logs) : Prop where
  keyed : logs.database.Keyed
  rows : List.Forall₂ columns.Writes (logs.appended.map Appended.inPostgres) logs.database.events
  ids : ((logs.appended.map Appended.inPostgres).map RunEvent.eventId).Nodup

section

variable {config : StoreConfig} {hash : MerkleHash} {columns : Columns} {logs later : Logs}

theorem Written.save (h : Written columns logs) {session stored : RunSession} {file : RunStore}
    {database : LogTables}
    (hsave : logs.database.saveRunSession columns session = .ok (stored, database)) :
    Written columns { logs with file, database } where
  keyed := h.keyed.saveRunSession hsave
  rows := by
    rw [(LogTables.saveRunSession_spec hsave).2.1]
    exact h.rows
  ids := h.ids

variable {event : RunEvent}

theorem Written.record (h : Written columns logs) {event' : RunEvent} {preset : Bool}
    {now : String} {file : RunStore} {database : LogTables}
    (hrecord : logs.database.record hash columns event' now = .ok database) :
    Written columns
      { appended := logs.appended ++ [⟨event, event', preset⟩], file, database } := by
  obtain ⟨⟨row, hwrites, hevents⟩, hnew, hkeyed, -⟩ := LogTables.record_spec h.keyed hrecord
  have hadded : (logs.appended ++ [Appended.mk event event' preset]).map Appended.inPostgres =
      logs.appended.map Appended.inPostgres ++ [event'] := by simp
  refine ⟨hkeyed, ?_, ?_⟩
  · rw [hadded, hevents]
    exact List.rel_append h.rows (.cons hwrites .nil)
  · rw [hadded, List.map_append, List.nodup_append]
    refine ⟨h.ids, List.nodup_singleton _, ?_⟩
    intro id hid other hother heq
    rw [← LogTables.eventIds_of_writes h.rows] at hid
    obtain ⟨row, hrow, rfl⟩ := List.mem_map.mp hid
    exact hnew row hrow (heq.trans (List.mem_singleton.mp hother))

theorem Written.step (h : Written columns logs) {call : Call}
    (hstep : Step config hash columns call logs later) : Written columns later := by
  cases hstep with
  | createRunSession _ hpostgres | saveRunSession _ hpostgres => exact h.save hpostgres
  | appendRunEvent _ _ _ hpostgres =>
    exact h.record (LogTables.appendRunEvent_event hpostgres).2
  | appendEvent _ hpostgres =>
    exact h.record (LogTables.appendEvent_spec hpostgres).2.2.2

theorem Runs.written {allowed : Call → Logs → Prop}
    (h : Runs config hash columns allowed logs) : Written columns logs := by
  induction h with
  | start => exact ⟨fun row hrow => (List.not_mem_nil hrow).elim, .nil, List.nodup_nil⟩
  | call call _ _ hstep ih => exact ih.step hstep

theorem exists_row {events : List RunEvent} {rows : List PostgresStateStore.EventRow}
    (h : List.Forall₂ columns.Writes events rows) (hevent : event ∈ events) :
    ∃ row ∈ rows, columns.Writes event row := by
  induction h with
  | nil => cases hevent
  | cons hwrites _ ih =>
    rcases List.mem_cons.mp hevent with rfl | hevent
    · exact ⟨_, List.mem_cons_self .., hwrites⟩
    · obtain ⟨row, hrow, hrowWrites⟩ := ih hevent
      exact ⟨row, List.mem_cons_of_mem _ hrow, hrowWrites⟩

/-- **A time with a T drifts.**  The `str()` of an instant has a space after the date, so the
database does not list what was appended. -/
theorem new_events_drift {allowed : Call → Logs → Prop}
    (hstr : ∀ instant, (columns.str instant).toList[10]? = some ' ')
    (h : Runs config hash columns allowed logs) {a : Appended} (ha : a ∈ logs.appended)
    (hclock : IsIsoformat a.inPostgres.recordedAt) : ¬ OneLog config hash columns logs := by
  intro hone
  have hwritten := h.written
  obtain ⟨row, hrow, hwrites⟩ := exists_row hwritten.rows (List.mem_map_of_mem ha)
  set after := a.inPostgres.sequence - 1
  have hlisted : row.event columns ∈
      logs.database.listRunEvents columns a.inPostgres.runId after := by
    refine List.mem_filter.mpr ⟨List.mem_map_of_mem ((List.mem_insertionSort _).mpr ?_), ?_⟩
    · exact List.mem_filter.mpr ⟨hrow, by simp [hwrites.runId]⟩
    · have hsequence : (row.event columns).sequence = a.inPostgres.sequence := hwrites.sequence
      rw [decide_eq_true_eq, hsequence]
      omega
  have hsaid : (row.event columns).said ∈ _ := List.mem_map_of_mem hlisted
  rw [hone.postgres_lists] at hsaid
  obtain ⟨event, hevent, hsame⟩ := List.mem_map.mp hsaid
  have hcontent : event.canonicalPayload.canon = (row.event columns).canonicalPayload.canon :=
    congrArg Prod.fst hsame
  have hmem : event ∈ logs.appended.map Appended.inPostgres :=
    List.mem_of_mem_filter (mem_bySequence.mp (List.mem_of_mem_filter hevent))
  have hid : event.eventId = a.inPostgres.eventId :=
    (eventId_eq_of_canon_eq hcontent).trans hwrites.eventId
  obtain rfl := List.inj_on_of_nodup_map hwritten.ids hmem (List.mem_map_of_mem ha) hid
  have htime : a.inPostgres.recordedAt = columns.str row.recordedAt := by
    have hfield := Json.get?_eq_of_canon_eq hcontent "recorded_at"
    simpa [Dict.get?_cons, Json.canon, PostgresStateStore.EventRow.event] using hfield
  rw [IsIsoformat, htime, hstr] at hclock
  exact absurd hclock (by decide)

end

def sampleColumns : Columns where
  instant text :=
    if text = "2026-01-05T10:00:00+00:00" ∨ text = "2026-01-05 10:00:00+00:00" then
      some 1767607200000000
    else none
  str instant :=
    if instant = 1767607200000000 then "2026-01-05 10:00:00+00:00" else "1970-01-01 00:00:00+00:00"
  jsonb value := some value

theorem sampleColumns_str (instant : Instant) :
    (sampleColumns.str instant).toList[10]? = some ' ' := by
  show (if instant = 1767607200000000 then "2026-01-05 10:00:00+00:00"
    else "1970-01-01 00:00:00+00:00").toList[10]? = some ' '
  split <;> decide +kernel

def sampleRequest : RunRequest where
  steeringMode := "approval_gate"
  autoMode := false
  pausePoints := []
  evaluationMode := "native"
  orchestrationMode := "native"
  artifacts := []

def sampleSession : RunSession := sampleRequest.session "run" "2026-01-05T10:00:00+00:00"

def sampleDatabase : LogTables where
  runs := [{
    runId := "run"
    goalId := none
    scenarioKey := none
    stage := "queued"
    status := "queued"
    createdAt := 1767607200000000
    snapshot := sampleSession }]

theorem exists_created {allowed : Call → Logs → Prop}
    (hallowed : allowed (.createRunSession sampleRequest) {}) :
    ∃ file, Runs ⟨100⟩ plainHash sampleColumns allowed
        { file := file, database := sampleDatabase } ∧
      file.getRunSession "run" = some sampleSession ∧ file.records "run" = [] := by
  obtain ⟨file, hsave, hfiles⟩ := exists_save ⟨100⟩ plainHash sampleSession {}
  have hstep : Step ⟨100⟩ plainHash sampleColumns (.createRunSession sampleRequest) {}
      { file := file, database := sampleDatabase } := .createRunSession hsave rfl
  refine ⟨file, .call _ .start hallowed hstep, ?_, ?_⟩
  · rw [hfiles.getRunSession]
    decide +kernel
  · rw [hfiles.records]
    decide +kernel

theorem exists_of_isOk {α : Type} {result : Except PyError α} (h : result.isOk = true) :
    ∃ value, result = .ok value := by
  cases result with
  | error e => cases h
  | ok value => exact ⟨value, rfl⟩

def sampleGiven : RunEvent :=
  { givenEvent "evt_a" 0 with recordedAt := "2026-01-05 10:00:00+00:00" }

theorem run_logs_are_one_log_sample :
    ∃ logs, Runs ⟨100⟩ plainHash sampleColumns (Call.Met ⟨100⟩ sampleColumns) logs ∧
      logs.appended ≠ [] ∧ OneLog ⟨100⟩ plainHash sampleColumns logs := by
  obtain ⟨file, hrun, hget, -⟩ := @exists_created (Call.Met ⟨100⟩ sampleColumns)
    (show 0 < (StoreConfig.mk 100).maxRecords by decide)
  obtain ⟨event, file', happend⟩ := @exists_appendEvent ⟨100⟩ plainHash sampleGiven file
  obtain ⟨⟨event', database⟩, hinsert⟩ := exists_of_isOk
    (show (sampleDatabase.appendEvent plainHash sampleColumns "run" sampleGiven
      "2026-01-05T10:00:00+00:00").isOk = true by decide +kernel)
  have hback : sampleColumns.ReadsBack sampleGiven :=
    { recordedAt := fun instant hread => by
        obtain rfl := Option.some.inj hread
        rfl
      payload := fun value hread => by
        obtain rfl := Option.some.inj hread
        rfl
      summary := fun value hread => by
        obtain rfl := Option.some.inj hread
        rfl }
  have hlast : Logs.PlacesLast { file := file, database := sampleDatabase } sampleGiven := by
    intro session hsession
    obtain rfl := Option.some.inj (hget.symm.trans hsession)
    exact .inl rfl
  have hlogged := hrun.call (.appendEvent "run" sampleGiven) ⟨hback, hlast⟩
    (.appendEvent happend hinsert)
  exact ⟨_, hlogged, by simp, run_logs_are_one_log _ _ _ _ hlogged⟩

theorem exists_appendRunEvent (draft : EventDraft)
    (uuid now : String) (s : RunStore) :
    ∃ t, Completes (storeStep config hash) (FileStateStore.appendRunEvent hash draft) s
      (draft.event hash (s.nextEventSequence draft.runId).1 uuid now) t := by
  set event := draft.event hash (s.nextEventSequence draft.runId).1 uuid now
  set logged := (s.logNewEvent hash draft uuid now).2
  obtain ⟨_, t, hadvance⟩ := exists_completes config hash
    (advanceSessionEventCursor hash draft.runId event)
    (logged.cacheEvent draft.runId event)
  refine ⟨t, ?_⟩
  simp only [FileStateStore.appendRunEvent, Prog.bind_eq, Prog.pure_eq, completes_bind,
    logNew_completes, cacheEvent_completes, completes_ret]
  exact ⟨event, logged, ⟨uuid, now, rfl⟩, (), _, rfl, (), t, hadvance, rfl, rfl⟩

def queuedDraft : EventDraft where
  runId := "run"
  stage := "queued"
  eventType := "note"
  payload := []

/-- A new run and one new event: the database lists the event with another time. -/
theorem new_event_is_listed_with_another_time :
    ¬ ∀ (config : StoreConfig) (hash : MerkleHash) (columns : Columns) (logs : Logs),
      (∀ instant, (columns.str instant).toList[10]? = some ' ') →
      (∀ value back, columns.jsonb value = some back →
        (Json.obj back).canon = (Json.obj value).canon) →
      Runs config hash columns (fun _ _ => True) logs → OneLog config hash columns logs := by
  intro hclaim
  set allowed : Call → Logs → Prop := fun _ _ => True
  obtain ⟨file, hrun, -, -⟩ := @exists_created allowed trivial
  obtain ⟨file', happend⟩ := exists_appendRunEvent ⟨100⟩ plainHash queuedDraft "uuid"
    "2026-01-05T10:00:00+00:00" file
  obtain ⟨⟨event', database⟩, hinsert⟩ := exists_of_isOk
    (show (sampleDatabase.appendRunEvent plainHash sampleColumns queuedDraft "uuid"
      "2026-01-05T10:00:00+00:00" "2026-01-05T10:00:00+00:00").isOk = true by decide +kernel)
  have hclock : IsIsoformat "2026-01-05T10:00:00+00:00" := by
    unfold IsIsoformat
    decide +kernel
  have htime : event'.recordedAt = "2026-01-05T10:00:00+00:00" := by
    rw [(LogTables.appendRunEvent_event hinsert).1]
    rfl
  have hlogged := hrun.call (.appendRunEvent queuedDraft) trivial
    (.appendRunEvent hclock rfl happend hinsert)
  have hjsonb : ∀ value back, sampleColumns.jsonb value = some back →
      (Json.obj back).canon = (Json.obj value).canon := fun value back hread => by
    obtain rfl := Option.some.inj hread
    rfl
  exact new_events_drift sampleColumns_str hlogged
    (List.mem_append_right _ (List.mem_singleton_self _))
    (show IsIsoformat event'.recordedAt from htime ▸ hclock)
    (hclaim _ _ _ _ sampleColumns_str hjsonb hlogged)

end OrbitalMesh.RunLogs
