import OrbitalMesh.ControlPlane.SessionFiles

/-!
# One run with a live session

What one call does to a run whose session is in the live file: a save merges
into that session and drops no other run (`RunStore.saveSession_live`), and an
append adds one record to the log and leaves the sessions alone
(`RunStore.Logs`).  The results about logs, caches and cursors in the modules
after this one rest on these two facts.
-/

namespace OrbitalMesh

open Atomic

variable (config : StoreConfig)

/-- One record for each run, and all of them fit into the live file. -/
structure RunStore.Roomy (s : RunStore) : Prop where
  nodup : (s.runs.map RunSession.runId).Nodup
  fits : s.runs.length ≤ config.maxRecords

section

variable {config : StoreConfig} {s t : RunStore}

theorem RunStore.Roomy.of_runs_eq (h : s.Roomy config) (hruns : t.runs = s.runs) : t.Roomy config :=
  ⟨hruns ▸ h.nodup, hruns ▸ h.fits⟩

variable {session : RunSession} {runId : String}

theorem RunStore.Roomy.getRunSession_eq (h : s.Roomy config) (hmem : session ∈ s.runs)
    (hid : session.runId = runId) : s.getRunSession runId = some session :=
  hid ▸ getRunSession_of_mem h.nodup hmem

theorem RunStore.getRunSession_eq_none (h : ∀ session ∈ s.runs, session.runId ≠ runId) :
    s.getRunSession runId = none := by
  refine List.find?_eq_none.mpr fun session hmem => ?_
  simpa using h session hmem

/-- **A save of a live run** merges into its session, leaves every other run
alone and moves nothing to the archive. -/
theorem RunStore.saveSession_live (h : s.Roomy config) {current : RunSession}
    (hlive : s.getRunSession session.runId = some current) :
    ∃ t, s.saveSession config session = (mergeSessionSnapshot session current, t) ∧
      t.Roomy config ∧
      t.getRunSession session.runId = some (mergeSessionSnapshot session current) ∧
      (∀ runId, runId ≠ session.runId → t.getRunSession runId = s.getRunSession runId) ∧
      t.archive = s.archive ∧ (∀ runId, t.records runId = s.records runId) ∧
      t.cache = s.cache := by
  obtain ⟨hmem, hid⟩ := RunStore.getRunSession_spec hlive
  set merged := mergeSessionSnapshot session current
  obtain ⟨before, existing, after, hruns, hexisting, hplace⟩ | ⟨hnew, -⟩ :=
    placeSession_cases session s.runs
  · have hsame : existing = current :=
      List.inj_on_of_nodup_map h.nodup (by simp [hruns]) hmem (hexisting.trans hid.symm)
    subst hsame
    have hlen : (newestFirst (before ++ merged :: after)).length ≤ config.maxRecords := by
      have hfits := h.fits
      rw [hruns] at hfits
      rw [length_newestFirst]
      simpa using hfits
    have hids : ((before ++ merged :: after).map RunSession.runId) =
        s.runs.map RunSession.runId := by
      simp [hruns, merged, hexisting]
    have hperm := perm_newestFirst (before ++ merged :: after)
    have hroomy : RunStore.Roomy config
        { s with runs := newestFirst (before ++ merged :: after) } :=
      ⟨(hperm.map _).nodup_iff.mpr (hids ▸ h.nodup), hlen⟩
    refine ⟨{ s with runs := newestFirst (before ++ merged :: after) }, ?_, hroomy, ?_, ?_, rfl,
      fun _ => rfl, rfl⟩
    · simp only [RunStore.saveSession, hplace]
      rw [List.take_of_length_le hlen, List.drop_of_length_le hlen, List.append_nil]
    · exact hroomy.getRunSession_eq (mem_newestFirst.mpr (by simp))
        (mergeSessionSnapshot_runId _ _)
    · intro runId hne
      cases hfound : s.getRunSession runId with
      | none =>
        refine RunStore.getRunSession_eq_none fun other hother => ?_
        have hnone := List.find?_eq_none.mp hfound
        simp only [mem_newestFirst, List.mem_append, List.mem_cons] at hother
        rcases hother with hother | rfl | hother
        · simpa using hnone other (by simp [hruns, hother])
        · exact fun heq => hne (heq.symm.trans (mergeSessionSnapshot_runId _ _))
        · simpa using hnone other (by simp [hruns, hother])
      | some other =>
        obtain ⟨hother, hotherId⟩ := RunStore.getRunSession_spec hfound
        refine hroomy.getRunSession_eq (mem_newestFirst.mpr ?_) hotherId
        rw [hruns] at hother
        simp only [List.mem_append, List.mem_cons] at hother ⊢
        rcases hother with hother | rfl | hother
        · exact .inl hother
        · exact absurd (hotherId.symm.trans hexisting) hne
        · exact .inr (.inr hother)
  · exact absurd hid (hnew current hmem)

end

/-- The event is written to the log of the run, and nothing else changes except
cached tails. -/
structure RunStore.Logs (runId : String) (event : RunEvent) (s t : RunStore) : Prop where
  runs : t.runs = s.runs
  archive : t.archive = s.archive
  records : t.records runId = s.records runId ++ [event]
  others : ∀ other, other ≠ runId → t.records other = s.records other

section

variable {hash : MerkleHash} {s t u : RunStore}

theorem RunStore.logs_appendRecord (runId : String) (event : RunEvent) (s : RunStore) :
    RunStore.Logs runId event s (s.appendRecord runId event) := by
  refine ⟨rfl, rfl, ?_, ?_⟩
  · simp [RunStore.records, RunStore.appendRecord]
  · intro other hne
    simp [RunStore.records, RunStore.appendRecord, Table.get_insert_of_ne _ _ hne]

theorem RunStore.SameFiles.logs {runId : String} {event : RunEvent} (h : s.SameFiles u)
    (hlogs : RunStore.Logs runId event u t) : RunStore.Logs runId event s t := by
  refine ⟨hlogs.runs.trans h.1, hlogs.archive.trans h.2.1, ?_, ?_⟩
  · rw [hlogs.records, h.records]
  · intro other hne
    rw [hlogs.others other hne, h.records]

theorem RunStore.logNewEvent_spec {draft : EventDraft} {uuid now : String} {event : RunEvent}
    (h : s.logNewEvent hash draft uuid now = (event, t)) :
    event = draft.event hash (s.nextEventSequence draft.runId).1 uuid now ∧
      RunStore.Logs draft.runId event s t ∧
      t.cache = (s.nextEventSequence draft.runId).2.cache := by
  obtain ⟨rfl, rfl⟩ := h
  exact ⟨rfl, (RunStore.sameFiles_nextEventSequence s draft.runId).logs
    (RunStore.logs_appendRecord ..), rfl⟩

def RunStore.givenSequence (s : RunStore) (event : RunEvent) : Int :=
  if event.sequence ≤ 0 then (s.nextEventSequence event.runId).1 else event.sequence

def RunStore.stamped (hash : MerkleHash) (s : RunStore) (event : RunEvent) : RunEvent :=
  ({ event with sequence := s.givenSequence event } : RunEvent).withLeafHash hash

theorem RunStore.logGivenEvent_spec {given event : RunEvent}
    (h : s.logGivenEvent hash given = (event, t)) :
    event = s.stamped hash given ∧ RunStore.Logs given.runId event s t ∧
      t.cache =
        (if given.sequence ≤ 0 then (s.nextEventSequence given.runId).2 else s).cache := by
  unfold RunStore.logGivenEvent at h
  unfold RunStore.stamped RunStore.givenSequence
  by_cases hzero : given.sequence ≤ 0
  · simp only [hzero, if_true, Prod.mk.injEq] at h ⊢
    obtain ⟨rfl, rfl⟩ := h
    exact ⟨rfl, (RunStore.sameFiles_nextEventSequence s given.runId).logs
      (RunStore.logs_appendRecord ..), rfl⟩
  · simp only [hzero, if_false, Prod.mk.injEq] at h ⊢
    obtain ⟨rfl, rfl⟩ := h
    exact ⟨rfl, RunStore.logs_appendRecord .., rfl⟩

end

section

variable {config : StoreConfig} {hash : MerkleHash} {s t : RunStore} {runId : String}

def StoreOp.saves : StoreOp → Bool
  | .saveSession _ _ => true
  | _ => false

theorem storeStep_runs {op : StoreOp} {r : StoreResp op}
    (hstep : storeStep config hash op s r t) (hop : op.saves = false) : t.runs = s.runs := by
  cases op with
  | logNew draft =>
    obtain ⟨uuid, now, hlog⟩ := hstep
    exact (RunStore.logNewEvent_spec hlog).2.1.runs
  | logGiven event => exact (RunStore.logGivenEvent_spec hstep).2.1.runs
  | cacheEvent other event | storeCache other events =>
    obtain rfl := hstep
    rfl
  | readCache | readLog | getSession | mirrorDue =>
    obtain ⟨-, rfl⟩ := hstep
    rfl
  | timestamp =>
    obtain rfl := hstep
    rfl
  | saveSession session read => cases hop

theorem exists_storeStep (config : StoreConfig) (hash : MerkleHash) (op : StoreOp)
    (s : RunStore) : ∃ r t, storeStep config hash op s r t := by
  cases op with
  | logNew draft => exact ⟨_, _, "", "", rfl⟩
  | logGiven event => exact ⟨_, _, rfl⟩
  | cacheEvent runId event => exact ⟨(), _, rfl⟩
  | readCache runId after | readLog runId => exact ⟨_, _, rfl, rfl⟩
  | storeCache runId events => exact ⟨(), _, rfl⟩
  | getSession runId => exact ⟨_, _, rfl, rfl⟩
  | saveSession session read => exact ⟨_, _, rfl⟩
  | timestamp => exact ⟨"", _, rfl⟩
  | mirrorDue runId force => exact ⟨true, _, fun _ => rfl, rfl⟩

theorem exists_completes {α : Type} (config : StoreConfig) (hash : MerkleHash)
    (method : StoreProg α) (s : RunStore) :
    ∃ a t, Completes (storeStep config hash) method s a t := by
  obtain ⟨trace, a, t, hruns⟩ := Runs.total (exists_storeStep config hash) method s
  exact ⟨a, t, trace, hruns⟩

theorem FileStateStore.records_of_advance {event : RunEvent}
    (h : Completes (storeStep config hash)
      (FileStateStore.advanceSessionEventCursor hash runId event) s () t) (other : String) :
    t.records other = s.records other := by
  obtain ⟨-, rfl⟩ | ⟨_, -, -, rfl⟩ | ⟨session, now, stored, v, -, -, hsave, hv⟩ :=
    FileStateStore.advance_completes h
  · rfl
  · rfl
  · have hrecords : v.records other = s.records other := by
      have heq : v = ((s.refreshed runId).saveSession config
        (FileStateStore.advanced hash s session event now)).2 := by rw [hsave]
      rw [heq]
      rfl
    rcases hv with rfl | rfl
    · exact hrecords
    · exact hrecords

theorem FileStateStore.records_of_appendEvent {given event : RunEvent}
    (h : Completes (storeStep config hash) (FileStateStore.appendEvent hash runId given) s
      (.ok event) t) :
    event = s.stamped hash given ∧ t.records runId = s.records runId ++ [event] := by
  obtain ⟨hne, -⟩ | ⟨rfl, stamped, u, hlog, hresult, hadvance⟩ :=
    FileStateStore.appendEvent_completes h
  · rw [FileStateStore.appendEvent, if_pos hne] at h
    have habsurd := (completes_ret.mp h).1
    cases habsurd
  · cases hresult
    obtain ⟨hevent, hlogs, -⟩ := RunStore.logGivenEvent_spec hlog
    exact ⟨hevent, (FileStateStore.records_of_advance hadvance _).trans hlogs.records⟩

end

variable {event : RunEvent} {x : RunEvent} {events : List RunEvent}

theorem mem_putEvent (h : x ∈ putEvent event events) : x = event ∨ x ∈ events := by
  induction events with
  | nil => simpa [putEvent] using h
  | cons known rest ih =>
    simp only [putEvent] at h
    split at h
    · rcases List.mem_cons.mp h with rfl | h
      · exact .inl rfl
      · exact .inr (List.mem_cons_of_mem _ h)
    · rcases List.mem_cons.mp h with rfl | h
      · exact .inr (List.mem_cons_self ..)
      · exact (ih h).imp id (List.mem_cons_of_mem _)

theorem self_mem_putEvent (event : RunEvent) (events : List RunEvent) :
    event ∈ putEvent event events := by
  induction events with
  | nil => simp [putEvent]
  | cons known rest ih =>
    simp only [putEvent]
    split
    · exact List.mem_cons_self ..
    · exact List.mem_cons_of_mem _ ih

theorem putEvent_of_mem (hids : (events.map RunEvent.eventId).Nodup) (h : event ∈ events) :
    putEvent event events = events := by
  induction events with
  | nil => cases h
  | cons known rest ih =>
    simp only [List.map_cons, List.nodup_cons, List.mem_map, not_exists, not_and] at hids
    rcases List.mem_cons.mp h with rfl | hmem
    · simp [putEvent]
    · have hne : known.eventId ≠ event.eventId := fun heq => hids.1 event hmem heq.symm
      simp [putEvent, hne, ih hids.2 hmem]

theorem loadEvents_singleton (event : RunEvent) : loadEvents [event] = [event] := by
  simp [loadEvents, dedupeEvents, putEvent, bySequence]

variable {records : List RunEvent}

theorem mem_loadEvents : event ∈ loadEvents records ↔ event ∈ dedupeEvents records :=
  mem_bySequence

theorem loadEvents_concat (records : List RunEvent) (event : RunEvent) :
    loadEvents (records ++ [event]) = bySequence (putEvent event (dedupeEvents records)) := by
  rw [loadEvents, dedupeEvents_concat]

theorem mem_loadEvents_concat (h : x ∈ loadEvents (records ++ [event])) :
    x = event ∨ x ∈ loadEvents records := by
  rw [loadEvents_concat, mem_bySequence] at h
  exact (mem_putEvent h).imp id mem_loadEvents.mpr

theorem self_mem_loadEvents (records : List RunEvent) (event : RunEvent) :
    event ∈ loadEvents (records ++ [event]) := by
  rw [loadEvents_concat, mem_bySequence]
  exact self_mem_putEvent ..

theorem loadEvents_concat_of_mem (h : event ∈ loadEvents records) :
    loadEvents (records ++ [event]) = loadEvents records := by
  rw [loadEvents_concat, putEvent_of_mem (nodup_dedupeEvents records) (mem_loadEvents.mp h)]
  rfl

def storeWithRun : RunStore := { runs := [queuedSession "run" "0"] }

def givenEvent (eventId : String) (sequence : Int) (merkleLeafHash : Option String := none) :
    RunEvent where
  eventId := eventId
  runId := "run"
  sequence := sequence
  stage := "imported"
  eventType := "note"
  recordedAt := "0"
  payload := []
  merkleLeafHash := merkleLeafHash

def sampleAnswer (hash : MerkleHash) :
    (op : StoreOp) → RunStore → Option (StoreResp op × RunStore)
  | .logNew draft, s => some (s.logNewEvent hash draft "uuid" "1")
  | .logGiven event, s => some (s.logGivenEvent hash event)
  | .cacheEvent runId event, s => some ((), s.cacheEvent runId event)
  | .readCache runId after, s => some (s.readCache runId after, s)
  | .readLog runId, s => some (s.diskEvents runId, s)
  | .storeCache runId events, s => some ((), s.storeCache runId events)
  | .getSession runId, s => some (s.getRunSession runId, s)
  | .saveSession session _, s => some (s.saveSession config session)
  | .timestamp, s => some ("1", s)
  | .mirrorDue _ force, s => some (force, s)

theorem sampleAnswer_step {config : StoreConfig} {hash : MerkleHash} (op : StoreOp)
    (s : RunStore) (r : StoreResp op) (t : RunStore)
    (h : sampleAnswer config hash op s = some (r, t)) : storeStep config hash op s r t := by
  cases op with
  | logNew draft => exact ⟨"uuid", "1", Option.some.inj h⟩
  | logGiven event => exact Option.some.inj h
  | cacheEvent runId event => exact (congrArg Prod.snd (Option.some.inj h)).symm
  | readCache runId after | readLog runId =>
    cases h
    exact ⟨rfl, rfl⟩
  | storeCache runId events => exact (congrArg Prod.snd (Option.some.inj h)).symm
  | getSession runId =>
    cases h
    exact ⟨rfl, rfl⟩
  | saveSession session read => exact Option.some.inj h
  | timestamp => exact (congrArg Prod.snd (Option.some.inj h)).symm
  | mirrorDue runId force =>
    cases h
    exact ⟨id, rfl⟩

theorem exists_appendEvent (hash : MerkleHash) {given : RunEvent}
    (s : RunStore) : ∃ event t, Completes (storeStep config hash)
      (FileStateStore.appendEvent hash given.runId given) s (.ok event) t := by
  obtain ⟨result, t, h⟩ :=
    exists_completes config hash (FileStateStore.appendEvent hash given.runId given) s
  obtain ⟨hne, -⟩ | ⟨-, event, u, -, rfl, -⟩ := FileStateStore.appendEvent_completes h
  · exact absurd rfl hne
  · exact ⟨event, t, h⟩

end OrbitalMesh
