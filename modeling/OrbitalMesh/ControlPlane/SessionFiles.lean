import OrbitalMesh.ControlPlane.RunStore
import Mathlib.Logic.Relation

/-!
# The live file and the archive of run sessions

A save merges with the record of the run in the live file and moves what exceeds
the file's length to the archive, which is never searched by a save.  So a run
that was moved to the archive and is saved again starts afresh.  Without such a
save nothing a reader is told goes back (`stale_saves_keep_progress`), and readers
agree on the latest snapshot of every run exactly as long as no more runs were
saved than the live file holds (`listed_runs_latest_iff`).
-/

namespace OrbitalMesh

open Atomic FileStateStore RunSession

/-- `xs[:stop]`: a negative bound counts from the end. -/
def sliceTo {α : Type} (xs : List α) (stop : Int) : List α :=
  if 0 ≤ stop then xs.take stop.toNat else xs.take (xs.length - stop.natAbs)

def firstOfEachRun (seen : List String) : List RunSession → List RunSession
  | [] => []
  | record :: rest =>
    if seen.contains record.runId then firstOfEachRun seen rest
    else record :: firstOfEachRun (record.runId :: seen) rest

namespace RunStore

/-- `list_run_sessions`: the archive is read when the live file is too short. -/
def listRunSessions (s : RunStore) (limit : Int) : List RunSession :=
  let records := if (s.runs.length : Int) < limit then s.runs ++ s.archive else s.runs
  sliceTo (newestFirst (firstOfEachRun [] records)) limit

def stored (s : RunStore) : List RunSession := s.runs ++ s.archive

end RunStore

theorem mem_of_mem_sliceTo {α : Type} {xs : List α} {stop : Int} {x : α}
    (h : x ∈ sliceTo xs stop) : x ∈ xs := by
  unfold sliceTo at h
  split at h <;> exact List.mem_of_mem_take h

variable {session : RunSession}

theorem mem_newestFirst {sessions : List RunSession} :
    session ∈ newestFirst sessions ↔ session ∈ sessions :=
  List.mem_insertionSort _

theorem perm_newestFirst (sessions : List RunSession) : (newestFirst sessions).Perm sessions :=
  List.perm_insertionSort _ _

theorem length_newestFirst (sessions : List RunSession) :
    (newestFirst sessions).length = sessions.length :=
  (perm_newestFirst sessions).length_eq

theorem firstOfEachRun_sublist (seen : List String) (records : List RunSession) :
    (firstOfEachRun seen records).Sublist records := by
  induction records generalizing seen with
  | nil => exact List.Sublist.refl []
  | cons record rest ih =>
    simp only [firstOfEachRun]
    split
    · exact (ih seen).cons record
    · exact (ih _).cons_cons record

variable {seen : List String}

theorem exists_mem_firstOfEachRun {records : List RunSession} (hmem : session ∈ records)
    (hnew : session.runId ∉ seen) :
    ∃ found ∈ firstOfEachRun seen records, found.runId = session.runId := by
  induction records generalizing seen with
  | nil => cases hmem
  | cons record rest ih =>
    simp only [firstOfEachRun]
    by_cases hsame : record.runId = session.runId
    · have hunseen : seen.contains record.runId = false := by
        simpa [hsame] using hnew
      rw [hunseen]
      exact ⟨record, by simp, hsame⟩
    · have hrest : session ∈ rest := by
        rcases List.mem_cons.mp hmem with rfl | h
        · exact absurd rfl hsame
        · exact h
      split
      · exact ih hrest hnew
      · have hnew' : session.runId ∉ record.runId :: seen := by
          simp only [List.mem_cons, not_or]
          exact ⟨fun heq => hsame heq.symm, hnew⟩
        obtain ⟨found, hfound, hid⟩ := ih hrest hnew'
        exact ⟨found, List.mem_cons_of_mem _ hfound, hid⟩

theorem firstOfEachRun_of_nodup {records : List RunSession} (hnodup : (records.map runId).Nodup)
    (hnew : ∀ record ∈ records, record.runId ∉ seen) : firstOfEachRun seen records = records := by
  induction records generalizing seen with
  | nil => rfl
  | cons record rest ih =>
    simp only [List.map_cons, List.nodup_cons, List.mem_map, not_exists, not_and] at hnodup
    simp only [List.mem_cons, forall_eq_or_imp] at hnew
    have hunseen : seen.contains record.runId = false := by simpa using hnew.1
    simp only [firstOfEachRun, hunseen, Bool.false_eq_true, if_false]
    rw [ih hnodup.2]
    intro other hother
    simp only [List.mem_cons, not_or]
    exact ⟨hnodup.1 other hother, hnew.2 other hother⟩

namespace RunStore

variable {session : RunSession} {s : RunStore} {limit : Int}

theorem mem_stored_of_listed (h : session ∈ s.listRunSessions limit) : session ∈ s.stored := by
  have hmem := (firstOfEachRun_sublist _ _).subset (mem_newestFirst.mp (mem_of_mem_sliceTo h))
  split at hmem
  · exact hmem
  · exact List.mem_append_left _ hmem

theorem exists_listed (h : session ∈ s.stored) (hlimit : (s.stored.length : Int) < limit) :
    ∃ found ∈ s.listRunSessions limit, found.runId = session.runId := by
  have hlen : (s.runs.length : Int) < limit := by
    simp only [stored, List.length_append] at hlimit
    omega
  obtain ⟨found, hfound, hid⟩ := exists_mem_firstOfEachRun h (List.not_mem_nil)
  have hshort : (newestFirst (firstOfEachRun [] s.stored)).length ≤ limit.toNat := by
    have hsub := (firstOfEachRun_sublist [] s.stored).length_le
    rw [length_newestFirst]
    omega
  refine ⟨found, ?_, hid⟩
  simp only [listRunSessions, hlen, if_true, sliceTo]
  rw [if_pos (by omega)]
  have htake := List.take_of_length_le hshort
  simp only [stored] at htake hfound
  rw [htake]
  exact mem_newestFirst.mpr hfound

theorem getRunSession_spec {runId : String} (h : s.getRunSession runId = some session) :
    session ∈ s.runs ∧ session.runId = runId := by
  refine ⟨List.mem_of_find?_eq_some h, ?_⟩
  have hfound := List.find?_some h
  simpa using hfound

end RunStore

theorem mergeRecord_some {merged : RunSession} {records placed : List RunSession}
    (h : mergeRecord session records = some (merged, placed)) :
    ∃ before existing after, records = before ++ existing :: after ∧
      existing.runId = session.runId ∧ merged = mergeSessionSnapshot session existing ∧
      placed = before ++ merged :: after := by
  induction records generalizing placed with
  | nil => cases h
  | cons record rest ih =>
    simp only [mergeRecord] at h
    split at h
    · next hsame =>
      cases h
      exact ⟨[], record, rest, rfl, hsame, rfl, rfl⟩
    · cases hrest : mergeRecord session rest with
      | none =>
        rw [hrest] at h
        cases h
      | some found =>
        obtain ⟨merged', placed'⟩ := found
        rw [hrest] at h
        cases h
        obtain ⟨before, existing, after, rfl, hid, hmerged, rfl⟩ := ih hrest
        exact ⟨record :: before, existing, after, rfl, hid, hmerged, rfl⟩

variable {records : List RunSession}

theorem mergeRecord_none (h : mergeRecord session records = none) :
    ∀ record ∈ records, record.runId ≠ session.runId := by
  induction records with
  | nil => simp
  | cons record rest ih =>
    simp only [mergeRecord] at h
    split at h
    · cases h
    · next hne =>
      cases hrest : mergeRecord session rest with
      | none =>
        simp only [List.mem_cons, forall_eq_or_imp]
        exact ⟨hne, ih hrest⟩
      | some found =>
        rw [hrest] at h
        cases h

/-- What a save does to the records: it replaces the record of a live run by
the merge, and puts a run that is not live in front. -/
theorem placeSession_cases (session : RunSession) (records : List RunSession) :
    (∃ before existing after, records = before ++ existing :: after ∧
      existing.runId = session.runId ∧
      placeSession session records =
        (mergeSessionSnapshot session existing,
          before ++ mergeSessionSnapshot session existing :: after)) ∨
    ((∀ record ∈ records, record.runId ≠ session.runId) ∧
      placeSession session records = (session, session :: records)) := by
  unfold placeSession
  cases hmerge : mergeRecord session records with
  | some placed =>
    obtain ⟨merged, placed⟩ := placed
    obtain ⟨before, existing, after, hrecords, hid, rfl, rfl⟩ := mergeRecord_some hmerge
    exact .inl ⟨before, existing, after, hrecords, hid, rfl⟩
  | none => exact .inr ⟨mergeRecord_none hmerge, rfl⟩

theorem placeSession_runId (session : RunSession) (records : List RunSession) :
    (placeSession session records).1.runId = session.runId := by
  obtain ⟨_, _, _, _, _, heq⟩ | ⟨_, heq⟩ := placeSession_cases session records
  · rw [heq, mergeSessionSnapshot_runId]
  · rw [heq]

theorem mem_runIds_placeSession {runId : String} :
    runId ∈ (placeSession session records).2.map RunSession.runId ↔
      runId = session.runId ∨ runId ∈ records.map RunSession.runId := by
  obtain ⟨before, existing, after, rfl, hid, heq⟩ | ⟨-, heq⟩ := placeSession_cases session records
  · rw [heq]
    simp only [List.map_append, List.map_cons, mergeSessionSnapshot_runId, List.mem_append,
      List.mem_cons, hid]
    tauto
  · rw [heq]
    simp

theorem nodup_placeSession (h : (records.map runId).Nodup) :
    ((placeSession session records).2.map runId).Nodup := by
  obtain ⟨before, existing, after, rfl, hid, heq⟩ | ⟨hnew, heq⟩ :=
    placeSession_cases session records
  · rw [heq]
    simpa [hid] using h
  · rw [heq]
    simp only [List.map_cons, List.nodup_cons, List.mem_map, not_exists, not_and]
    exact ⟨hnew, h⟩

theorem mem_placeSession {record : RunSession} {records : List RunSession}
    (hnodup : (records.map runId).Nodup)
    (h : record ∈ (placeSession session records).2) :
    record = (placeSession session records).1 ∨
      (record ∈ records ∧ record.runId ≠ session.runId) := by
  obtain ⟨before, existing, after, rfl, hid, heq⟩ | ⟨hnew, heq⟩ :=
    placeSession_cases session records
  · rw [heq] at h ⊢
    simp only [List.map_append, List.map_cons, List.nodup_append, List.nodup_cons, List.mem_map,
      List.mem_cons, not_exists, not_and] at hnodup
    rcases List.mem_append.mp h with hbefore | h
    · refine .inr ⟨by simp [hbefore], ?_⟩
      rw [← hid]
      exact hnodup.2.2 _ ⟨record, hbefore, rfl⟩ _ (.inl rfl)
    · rcases List.mem_cons.mp h with rfl | hafter
      · exact .inl rfl
      · refine .inr ⟨by simp [hafter], ?_⟩
        rw [← hid]
        exact hnodup.2.1.1 record hafter
  · rw [heq] at h ⊢
    rcases List.mem_cons.mp h with rfl | h
    · exact .inl rfl
    · exact .inr ⟨h, hnew record h⟩

namespace RunStore

theorem stored_saveSession (config : StoreConfig) (session : RunSession) (s : RunStore) :
    (s.saveSession config session).2.stored.Perm
      ((placeSession session s.runs).2 ++ s.archive) := by
  set placed := (placeSession session s.runs).2
  set sorted := newestFirst placed
  have hsplit : (s.saveSession config session).2.stored =
      sorted.take config.maxRecords ++ (s.archive ++ sorted.drop config.maxRecords) := rfl
  have hperm : (sorted.take config.maxRecords ++ (s.archive ++ sorted.drop config.maxRecords)).Perm
      (sorted.take config.maxRecords ++ (sorted.drop config.maxRecords ++ s.archive)) :=
    List.Perm.append_left _ List.perm_append_comm
  refine hperm.trans ?_
  rw [← List.append_assoc, List.take_append_drop]
  exact (perm_newestFirst placed).append_right _

theorem length_runs_saveSession (config : StoreConfig) (session : RunSession) (s : RunStore) :
    (s.saveSession config session).2.runs.length ≤ config.maxRecords := by
  simp only [saveSession, List.length_take]
  omega

end RunStore

/-- What is reported later is no step back from what was reported earlier. -/
structure Advances (earlier later : RunSession) : Prop where
  cursor : earlier.latestEventSequence ≤ later.latestEventSequence
  final : earlier.isFinal = true → later.isFinal = true
  artifacts : ∀ key, (earlier.artifacts.get? key).isSome → (later.artifacts.get? key).isSome

theorem Advances.refl (session : RunSession) : Advances session session :=
  ⟨Int.le_refl _, id, fun _ => id⟩

theorem Advances.trans {a b c : RunSession} (h : Advances a b) (h' : Advances b c) : Advances a c :=
  ⟨h.cursor.trans h'.cursor, h'.final ∘ h.final, fun key => h'.artifacts key ∘ h.artifacts key⟩

theorem advances_merge (candidate current : RunSession) :
    Advances current (mergeSessionSnapshot candidate current) where
  cursor := by
    rw [mergeSessionSnapshot_cursor]
    omega
  final := mergeSessionSnapshot_final
  artifacts _ := mergeSessionSnapshot_artifacts

namespace RunStore

def OneRecordEach (s : RunStore) : Prop := (s.stored.map runId).Nodup

/-- Every stored record has a successor that is no step back. -/
def Progresses (s t : RunStore) : Prop :=
  ∀ earlier ∈ s.stored, ∃ later ∈ t.stored, later.runId = earlier.runId ∧ Advances earlier later

theorem Progresses.refl (s : RunStore) : s.Progresses s :=
  fun session h => ⟨session, h, rfl, .refl session⟩

variable {s : RunStore}

theorem Progresses.trans {t u : RunStore} (h : s.Progresses t) (h' : t.Progresses u) :
    s.Progresses u := by
  intro earlier hearlier
  obtain ⟨middle, hmiddle, hid, hadv⟩ := h earlier hearlier
  obtain ⟨later, hlater, hid', hadv'⟩ := h' middle hmiddle
  exact ⟨later, hlater, hid'.trans hid, hadv.trans hadv'⟩

theorem saveSession_progresses {config : StoreConfig} {session : RunSession} {s : RunStore}
    (hone : s.OneRecordEach) (harchive : ∀ record ∈ s.archive, record.runId ≠ session.runId) :
    (s.saveSession config session).2.OneRecordEach ∧
      s.Progresses (s.saveSession config session).2 := by
  have hperm := stored_saveSession config session s
  have hids := (hperm.map runId).nodup_iff
  obtain ⟨before, existing, after, hruns, hid, hplace⟩ | ⟨hnew, hplace⟩ :=
    placeSession_cases session s.runs
  · rw [hplace] at hids hperm
    have hstored : s.stored = before ++ existing :: after ++ s.archive := by
      rw [stored, hruns]
    constructor
    · refine hids.mpr ?_
      rw [OneRecordEach, hstored] at hone
      simpa [hid] using hone
    · intro earlier hearlier
      rw [hstored] at hearlier
      simp only [List.append_assoc, List.mem_append, List.mem_cons, List.cons_append] at hearlier
      have hmem : ∀ record, record ∈ before ∨ record = mergeSessionSnapshot session existing ∨
          record ∈ after ∨ record ∈ s.archive →
          record ∈ (s.saveSession config session).2.stored := by
        intro record hrecord
        refine hperm.mem_iff.mpr ?_
        simpa using hrecord
      rcases hearlier with hbefore | rfl | hafter | harchived
      · exact ⟨earlier, hmem _ (.inl hbefore), rfl, .refl _⟩
      · exact ⟨_, hmem _ (.inr (.inl rfl)), by simp [hid], advances_merge session earlier⟩
      · exact ⟨earlier, hmem _ (.inr (.inr (.inl hafter))), rfl, .refl _⟩
      · exact ⟨earlier, hmem _ (.inr (.inr (.inr harchived))), rfl, .refl _⟩
  · rw [hplace] at hids hperm
    constructor
    · refine hids.mpr ?_
      simp only [List.cons_append, List.map_cons, List.nodup_cons, List.mem_map, List.mem_append,
        not_exists, not_and]
      refine ⟨?_, hone⟩
      rintro record (hrecord | hrecord)
      · exact hnew record hrecord
      · exact harchive record hrecord
    · intro earlier hearlier
      refine ⟨earlier, hperm.mem_iff.mpr ?_, rfl, .refl _⟩
      exact List.mem_cons_of_mem _ hearlier

theorem OneRecordEach.not_archived (hone : s.OneRecordEach) {session : RunSession}
    (hlive : session ∈ s.runs) : ∀ record ∈ s.archive, record.runId ≠ session.runId := by
  intro record hrecord hsame
  rw [OneRecordEach, stored, List.map_append, List.nodup_append] at hone
  exact hone.2.2 _ (List.mem_map_of_mem hlive) _ (List.mem_map_of_mem hrecord) hsame.symm

/-- What `list_run_sessions` or `get_run_session` reports. -/
def Reports (s : RunStore) (session : RunSession) : Prop :=
  (∃ limit, session ∈ s.listRunSessions limit) ∨ s.getRunSession session.runId = some session

theorem Reports.mem_stored {session : RunSession} (h : s.Reports session) : session ∈ s.stored := by
  rcases h with ⟨limit, hlisted⟩ | hget
  · exact mem_stored_of_listed hlisted
  · exact List.mem_append_left _ (getRunSession_spec hget).1

end RunStore

inductive WriterCall where
  | saveRunSession (session : RunSession)
  | updateSnapshot (runId : String) (snapshot : RunSession)
  | appendRunEvent (draft : EventDraft)

namespace WriterCall

/-- The call, made by the only thread, takes the store from `s` to `t`. -/
def Serves (config : StoreConfig) (hash : MerkleHash) : WriterCall → RunStore → RunStore → Prop
  | .saveRunSession session, s, t =>
    ∃ stored, Completes (storeStep config hash) (FileStateStore.saveRunSession session) s stored t
  | .updateSnapshot runId snapshot, s, t =>
    ∃ result,
      Completes (storeStep config hash) (FileStateStore.updateSnapshot runId snapshot) s result t
  | .appendRunEvent draft, s, t =>
    ∃ event, Completes (storeStep config hash) (FileStateStore.appendRunEvent hash draft) s
      event t

/-- The session that the call passes to `save_run_session` as it was given. -/
def saved? : WriterCall → Option RunSession
  | .saveRunSession session => some session
  | .updateSnapshot runId snapshot => if snapshot.runId = runId then some snapshot else none
  | .appendRunEvent _ => none

def SparesArchive (call : WriterCall) (s : RunStore) : Prop :=
  ∀ session, call.saved? = some session → ∀ record ∈ s.archive, record.runId ≠ session.runId

end WriterCall

section

variable {config : StoreConfig} {hash : MerkleHash} {s t : RunStore}

/-- What holds of the sessions only is not touched by a refreshed cache. -/
theorem progresses_of_save {session stored : RunSession} {read : Option RunSession}
    (h : Completes (storeStep config hash) (saveRunSession session read) s stored t)
    (hone : s.OneRecordEach) (harchive : ∀ record ∈ s.archive, record.runId ≠ session.runId) :
    t.OneRecordEach ∧ s.Progresses t := by
  obtain ⟨u, hsave, hcache⟩ := save_completes h
  have hu : u = (s.saveSession config session).2 := by rw [hsave]
  have hprogress := @RunStore.saveSession_progresses config _ _ hone harchive
  rw [← hu] at hprogress
  rcases hcache with rfl | rfl
  · exact hprogress
  · exact hprogress

theorem progresses_of_advance {runId : String} {event : RunEvent} {u : Unit}
    (h : Completes (storeStep config hash)
      (advanceSessionEventCursor hash runId event) s u t)
    (hone : s.OneRecordEach) : t.OneRecordEach ∧ s.Progresses t := by
  obtain ⟨-, rfl⟩ | ⟨_, -, -, rfl⟩ | ⟨session, now, stored, v, hget, -, hsave, hcache⟩ :=
    advance_completes h
  · exact ⟨hone, .refl _⟩
  · exact ⟨hone, .refl _⟩
  · have hlive := (RunStore.getRunSession_spec hget).1
    have harchive := hone.not_archived hlive
    have hprogress := @RunStore.saveSession_progresses config
      (advanced hash s session event now) (s.refreshed runId) hone harchive
    rw [hsave] at hprogress
    rcases hcache with rfl | rfl
    · exact hprogress
    · exact hprogress

theorem WriterCall.Serves.progresses {call : WriterCall} (h : call.Serves config hash s t)
    (hspares : call.SparesArchive s) (hone : s.OneRecordEach) :
    t.OneRecordEach ∧ s.Progresses t := by
  cases call with
  | saveRunSession session =>
    obtain ⟨stored, hsave⟩ := h
    exact progresses_of_save hsave hone (hspares session rfl)
  | updateSnapshot runId snapshot =>
    obtain ⟨result, hupdate⟩ := h
    obtain ⟨-, rfl⟩ | ⟨hid, stored, -, hsave⟩ := FileStateStore.updateSnapshot_completes hupdate
    · exact ⟨hone, .refl _⟩
    · exact progresses_of_save hsave hone (hspares snapshot (by simp [saved?, hid]))
  | appendRunEvent draft =>
    obtain ⟨event, happend⟩ := h
    obtain ⟨uuid, now, u, hlog, hadvance⟩ := FileStateStore.appendRunEvent_completes happend
    have hsessions := RunStore.sessions_logNewEvent hash draft uuid now s
    rw [hlog] at hsessions
    have hstored : (u.cacheEvent draft.runId event).stored = s.stored := by
      show u.runs ++ u.archive = s.stored
      rw [hsessions.1, hsessions.2, RunStore.stored]
    have hone' : (u.cacheEvent draft.runId event).OneRecordEach := by
      rw [RunStore.OneRecordEach, hstored]
      exact hone
    obtain ⟨hdone, hprogress⟩ := progresses_of_advance hadvance hone'
    refine ⟨hdone, ?_⟩
    intro earlier hearlier
    exact hprogress earlier (hstored ▸ hearlier)

/-- A sequence of calls, each of them allowed where it is made. -/
def WriterRun (config : StoreConfig) (hash : MerkleHash) (allowed : WriterCall → RunStore → Prop) :
    RunStore → RunStore → Prop :=
  Relation.ReflTransGen fun s t => ∃ call, allowed call s ∧ call.Serves config hash s t

theorem WriterRun.progresses (h : WriterRun config hash WriterCall.SparesArchive s t)
    (hone : s.OneRecordEach) : t.OneRecordEach ∧ s.Progresses t := by
  induction h with
  | refl => exact ⟨hone, .refl s⟩
  | tail _ hstep ih =>
    obtain ⟨call, hspares, hserves⟩ := hstep
    obtain ⟨hdone, hprogress⟩ := hserves.progresses hspares ih.1
    exact ⟨hdone, ih.2.trans hprogress⟩

/-- **Stale writers do not set a run back** in every sequence of calls in which no archived run
is saved again. -/
theorem stale_saves_keep_progress
    (hbefore : WriterRun config hash WriterCall.SparesArchive {} s)
    (hafter : WriterRun config hash WriterCall.SparesArchive s t) {earlier later : RunSession}
    (hearlier : s.Reports earlier) (hlater : t.Reports later)
    (hrun : earlier.runId = later.runId) : Advances earlier later := by
  have hone := (hbefore.progresses (by simp [RunStore.OneRecordEach, RunStore.stored])).1
  obtain ⟨hdone, hprogress⟩ := hafter.progresses hone
  obtain ⟨found, hfound, hid, hadvances⟩ := hprogress earlier hearlier.mem_stored
  have hsame : found = later :=
    List.inj_on_of_nodup_map hdone hfound hlater.mem_stored (hid.trans hrun)
  exact hsame ▸ hadvances

end

variable (config : StoreConfig)

def RunStore.saveAll (sessions : List RunSession) (s : RunStore) :
    RunStore :=
  sessions.foldl (fun s session => (s.saveSession config session).2) s

theorem RunStore.SameFiles.saveSession {config : StoreConfig} {session : RunSession}
    {s t : RunStore} (h : s.SameFiles t) :
    (s.saveSession config session).1 = (t.saveSession config session).1 ∧
      (s.saveSession config session).2.SameFiles (t.saveSession config session).2 := by
  obtain ⟨hruns, harchive, hlegacy, hlogs⟩ := h
  simp only [RunStore.saveSession, RunStore.SameFiles, hruns, harchive, hlegacy, hlogs, and_self]

theorem exists_save (hash : MerkleHash) (session : RunSession)
    (s : RunStore) :
    ∃ t, Completes (storeStep config hash) (saveRunSession session) s
        (s.saveSession config session).1 t ∧
      (s.saveSession config session).2.SameFiles t := by
  set u := (s.saveSession config session).2
  set stored := (s.saveSession config session).1
  -- the vault is due, and finds the run or not
  have hvault : ∀ force, ∃ t, Completes (storeStep config hash)
      (materializeVault stored.runId force) u () t ∧ u.SameFiles t := by
    intro force
    simp only [materializeVault, Prog.bind_eq, completes_bind,
      mirrorDue_completes]
    cases hget : u.getRunSession stored.runId with
    | none =>
      refine ⟨u, ⟨true, u, by simp, ?_⟩, .refl u⟩
      simp only [if_true, completes_bind, getRunSession_completes]
      exact ⟨none, u, ⟨hget.symm, rfl⟩, by simp⟩
    | some session =>
      refine ⟨u.refreshed stored.runId, ⟨true, u, by simp, ?_⟩,
        RunStore.sameFiles_storeCache ..⟩
      simp only [if_true, completes_bind, getRunSession_completes]
      refine ⟨some session, u, ⟨hget.symm, rfl⟩, ?_⟩
      simp only [Prog.pure_eq, completes_bind, load_completes, completes_ret]
      exact ⟨_, _, ⟨rfl, rfl⟩, trivial, rfl⟩
  obtain ⟨t, ht, hfiles⟩ := hvault
    (vaultForceStages.contains stored.stage || vaultForceStages.contains stored.status)
  refine ⟨t, ?_, hfiles⟩
  simp only [saveRunSession, Prog.bind_eq, Prog.pure_eq, completes_bind,
    saveSession_completes, completes_ret]
  exact ⟨stored, u, rfl, (), t, ht, by simp⟩

theorem exists_saveAll (hash : MerkleHash)
    {allowed : WriterCall → RunStore → Prop} (sessions : List RunSession) {s s' : RunStore}
    (hfiles : s.SameFiles s')
    (hallowed : ∀ before session after, sessions = before ++ session :: after →
      ∀ u, (s.saveAll config before).SameFiles u → allowed (.saveRunSession session) u) :
    ∃ t, WriterRun config hash allowed s' t ∧ (s.saveAll config sessions).SameFiles t := by
  induction sessions generalizing s s' with
  | nil => exact ⟨s', .refl, hfiles⟩
  | cons session rest ih =>
    obtain ⟨t, hsave, htfiles⟩ := exists_save config hash session s'
    have hsame := (@RunStore.SameFiles.saveSession config session _ _ hfiles).2.trans htfiles
    have hfirst := hallowed [] session rest rfl s' hfiles
    obtain ⟨v, hrun, hvfiles⟩ := ih hsame fun before next after hsplit u hu =>
      hallowed (session :: before) next after (by rw [hsplit]; rfl) u hu
    exact ⟨v, hrun.head ⟨_, hfirst, _, hsave⟩, hvfiles⟩

def queuedSession (runId createdAt : String) : RunSession where
  runId := runId
  createdAt := createdAt
  updatedAt := createdAt
  goalId := none
  scenarioKey := none
  stage := "queued"
  status := "queued"
  steeringMode := "approval_gate"
  autoMode := false
  pausePoints := []
  pendingPauseStage := none
  evaluationMode := "native"
  orchestrationMode := "native"
  latestEventId := none
  latestEventSequence := 0
  latestMerkleRoot := none
  operatorNotes := []
  artifacts := []
  error := none

def plainHash : MerkleHash where
  ofLeaf payload := hex64 (payload.checksum 0)
  ofNode left right := hex64 (Json.mixText (Json.mixText 1 left) right)
  ofEmpty := hex64 2

/-- Two saves of one run in an otherwise empty store: the second copy is stale. -/
theorem stale_saves_keep_progress_sample :
    ∃ s t, WriterRun ⟨100⟩ plainHash WriterCall.SparesArchive {} s ∧
      WriterRun ⟨100⟩ plainHash WriterCall.SparesArchive s t ∧
      ∃ later, t.Reports later ∧
        Advances { queuedSession "run" "0" with latestEventSequence := 5 } later := by
  set fresh := { queuedSession "run" "0" with latestEventSequence := 5 }
  set stale := queuedSession "run" "0"
  have hspares : ∀ (call : WriterCall) (u : RunStore), u.archive = [] → call.SparesArchive u := by
    intro call u harchive _ _ record hrecord
    rw [harchive] at hrecord
    cases hrecord
  obtain ⟨s, hfirst, hsfiles⟩ := exists_save ⟨100⟩ plainHash fresh {}
  have hsarchive : s.archive = [] := by
    rw [hsfiles.2.1]
    decide +kernel
  obtain ⟨t, hsecond, htfiles⟩ := exists_save ⟨100⟩ plainHash stale s
  have hs : WriterRun ⟨100⟩ plainHash WriterCall.SparesArchive {} s :=
    .single ⟨.saveRunSession fresh, hspares _ _ rfl, _, hfirst⟩
  have ht : WriterRun ⟨100⟩ plainHash WriterCall.SparesArchive s t :=
    .single ⟨.saveRunSession stale, hspares _ _ hsarchive, _, hsecond⟩
  have hearlier : s.Reports fresh := by
    right
    rw [hsfiles.getRunSession]
    decide +kernel
  have hlater : t.Reports (mergeSessionSnapshot stale fresh) := by
    right
    rw [htfiles.getRunSession,
      (@RunStore.SameFiles.saveSession ⟨100⟩ stale _ _ hsfiles).2.getRunSession]
    decide +kernel
  exact ⟨s, t, hs, ht, _, hlater, stale_saves_keep_progress hs ht hearlier hlater rfl⟩

def fiftyRuns : List RunSession :=
  (List.range 50).map fun i =>
    queuedSession (String.ofList [Char.ofNat (48 + i / 10), Char.ofNat (48 + i % 10)]) "1"

/-- A run is archived by fifty newer ones, and a stale copy of it is saved under a newer creation
time: its cursor is back at zero. -/
theorem archived_run_set_back :
    ¬ ∀ (config : StoreConfig) (hash : MerkleHash) (s t : RunStore),
      WriterRun config hash (fun _ _ => True) {} s → WriterRun config hash (fun _ _ => True) s t →
      ∀ earlier later, s.Reports earlier → t.Reports later → earlier.runId = later.runId →
        Advances earlier later := by
  intro hclaim
  obtain ⟨s, hs, hsfiles⟩ := @exists_saveAll ⟨0⟩ plainHash (fun _ _ => True)
    [{ queuedSession "run" "0" with latestEventSequence := 5 }] {} {} (.refl {})
    (fun _ _ _ _ _ _ => trivial)
  obtain ⟨t, ht, htfiles⟩ := @exists_saveAll ⟨0⟩ plainHash (fun _ _ => True)
    (fiftyRuns ++ [queuedSession "run" "2"]) _ s hsfiles (fun _ _ _ _ _ _ => trivial)
  have hearlier : s.Reports { queuedSession "run" "0" with latestEventSequence := 5 } := by
    right
    rw [hsfiles.getRunSession]
    decide +kernel
  have hlater : t.Reports (queuedSession "run" "2") := by
    right
    rw [htfiles.getRunSession]
    decide +kernel
  have hback := (hclaim _ _ s t hs ht _ _ hearlier hlater rfl).cursor
  exact absurd hback (by decide)

/-- A sequence of saves on an empty store, with the snapshots they returned. -/
inductive SavedRuns (config : StoreConfig) (hash : MerkleHash) :
    List RunSession → RunStore → Prop
  | start : SavedRuns config hash [] {}
  | save {log : List RunSession} {s t : RunStore} {session stored : RunSession}
      (before : SavedRuns config hash log s)
      (last : Completes (storeStep config hash) (saveRunSession session) s
        stored t) :
      SavedRuns config hash (log ++ [stored]) t

/-- The snapshot that the last save of a run returned. -/
def latestSaved (log : List RunSession) (runId : String) : Option RunSession :=
  log.reverse.find? fun session => session.runId == runId

theorem latestSaved_concat (log : List RunSession) (stored : RunSession) (runId : String) :
    latestSaved (log ++ [stored]) runId =
      if stored.runId = runId then some stored else latestSaved log runId := by
  by_cases h : stored.runId = runId
  · simp [latestSaved, h]
  · simp [latestSaved, h]

section

variable {config : StoreConfig} {hash : MerkleHash} {log : List RunSession} {t : RunStore}
  {s : RunStore}

theorem save_sessions {session stored : RunSession}
    (h : Completes (storeStep config hash) (saveRunSession session) s stored t) :
    stored = (s.saveSession config session).1 ∧ t.runs = (s.saveSession config session).2.runs ∧
      t.archive = (s.saveSession config session).2.archive := by
  obtain ⟨u, hsave, rfl | rfl⟩ := save_completes h
  · simp [hsave]
  · rw [hsave]
    exact ⟨rfl, rfl, rfl⟩

theorem SavedRuns.kept (h : SavedRuns config hash log t) :
    t.runs.length ≤ config.maxRecords ∧
      ∀ session ∈ log, session.runId ∈ t.stored.map RunSession.runId := by
  induction h with
  | start => simp
  | @save log s t session stored _ last ih =>
    obtain ⟨rfl, hruns, harchive⟩ := save_sessions last
    have hstored : t.stored = (s.saveSession config session).2.stored := by
      rw [RunStore.stored, hruns, harchive, RunStore.stored]
    refine ⟨hruns ▸ RunStore.length_runs_saveSession config session s, ?_⟩
    have hperm := (RunStore.stored_saveSession config session s).map RunSession.runId
    intro saved hsaved
    rw [hstored, hperm.mem_iff, List.map_append, List.mem_append, mem_runIds_placeSession]
    rcases List.mem_append.mp hsaved with hold | hnew
    · have hfound := ih.2 saved hold
      rw [RunStore.stored, List.map_append, List.mem_append] at hfound
      tauto
    · rw [List.mem_singleton.mp hnew]
      exact .inl (.inl (placeSession_runId session s.runs))

theorem getRunSession_of_mem {session : RunSession} (hnodup : (s.runs.map runId).Nodup)
    (hmem : session ∈ s.runs) : s.getRunSession session.runId = some session := by
  cases hfind : s.getRunSession session.runId with
  | none =>
    have hnone := List.find?_eq_none.mp hfind session hmem
    simp at hnone
  | some found =>
    obtain ⟨hfound, hid⟩ := RunStore.getRunSession_spec hfind
    rw [List.inj_on_of_nodup_map hnodup hfound hmem hid]

/-- As long as the runs fit into the live file, the archive stays empty and the
live file has the latest snapshot of every run. -/
theorem SavedRuns.latest (h : SavedRuns config hash log t)
    (hfits : (log.map RunSession.runId).dedup.length ≤ config.maxRecords) :
    t.archive = [] ∧ (t.runs.map RunSession.runId).Nodup ∧
      (∀ session ∈ t.runs, latestSaved log session.runId = some session) ∧
      t.runs.map RunSession.runId ⊆ log.map RunSession.runId := by
  induction h with
  | start => simp
  | @save log s t session stored _ last ih =>
    have hsub : (log.map RunSession.runId) ⊆ ((log ++ [stored]).map RunSession.runId) := by
      simp
    have hold : (log.map RunSession.runId).dedup.length ≤ config.maxRecords := by
      refine Nat.le_trans (List.Subperm.length_le ?_) hfits
      exact List.subperm_of_subset (List.nodup_dedup _) fun id hid =>
        List.mem_dedup.mpr (hsub (List.mem_dedup.mp hid))
    obtain ⟨harchive, hnodup, hlatest, hruns⟩ := ih hold
    obtain ⟨rfl, htruns, htarchive⟩ := save_sessions last
    set placed := (placeSession session s.runs).2
    have hstored : (s.saveSession config session).1.runId = session.runId :=
      placeSession_runId session s.runs
    have hplaced : (placed.map RunSession.runId).Nodup := nodup_placeSession hnodup
    have hknown : placed.map RunSession.runId ⊆
        (log ++ [(s.saveSession config session).1]).map RunSession.runId := by
      intro id hid
      rw [mem_runIds_placeSession] at hid
      simp only [List.map_append, List.map_cons, List.map_nil, List.mem_append,
        List.mem_singleton, hstored]
      exact hid.elim .inr fun hmem => .inl (hruns hmem)
    have hlen : (newestFirst placed).length ≤ config.maxRecords := by
      rw [length_newestFirst]
      refine Nat.le_trans ?_ hfits
      have hsubperm :=
        List.subperm_of_subset hplaced fun id hid => List.mem_dedup.mpr (hknown hid)
      simpa using hsubperm.length_le
    have hruns' : t.runs = newestFirst placed := htruns.trans (List.take_of_length_le hlen)
    have harchive' : t.archive = [] := by
      rw [htarchive]
      show s.archive ++ (newestFirst placed).drop config.maxRecords = []
      rw [harchive, List.drop_of_length_le hlen]
      rfl
    have hids := (perm_newestFirst placed).map RunSession.runId
    refine ⟨harchive', ?_, ?_, ?_⟩
    · rw [hruns']
      exact hids.nodup_iff.mpr hplaced
    · rw [hruns']
      intro record hrecord
      rw [latestSaved_concat]
      rcases mem_placeSession hnodup (mem_newestFirst.mp hrecord) with rfl | ⟨hmem, hne⟩
      · exact if_pos rfl
      · rw [if_neg (fun heq => hne (heq.symm.trans hstored))]
        exact hlatest record hmem
    · rw [hruns']
      exact fun id hid => hknown (hids.mem_iff.mp hid)

/-- **The live file bounds what readers agree on**: no saved run is missing exactly when the
saved runs fit into it. -/
theorem listed_runs_latest_iff (h : SavedRuns config hash log t) :
    ((∀ limit, ∀ session ∈ t.listRunSessions limit,
        latestSaved log session.runId = some session ∧
          t.getRunSession session.runId = some session) ∧
      (∀ session ∈ log, ∃ bound, ∀ limit, bound ≤ limit →
        ∃ found ∈ t.listRunSessions limit, found.runId = session.runId)) ↔
      (log.map runId).dedup.length ≤ config.maxRecords := by
  have hkept := h.kept
  have hfound : ∀ session ∈ log, ∀ limit : Int, (t.stored.length : Int) + 1 ≤ limit →
      ∃ found ∈ t.listRunSessions limit, found.runId = session.runId := by
    intro session hsession limit hlimit
    obtain ⟨record, hrecord, hid⟩ := List.mem_map.mp (hkept.2 session hsession)
    obtain ⟨found, hfound, hsame⟩ := RunStore.exists_listed hrecord (by omega : _ < limit)
    exact ⟨found, hfound, hsame.trans hid⟩
  constructor
  · rintro ⟨hlisted, -⟩
    -- every saved run is listed, hence live, and the live file is bounded
    have hlive : (log.map runId).dedup ⊆ t.runs.map runId := by
      intro id hid
      obtain ⟨session, hsession, rfl⟩ := List.mem_map.mp (List.mem_dedup.mp hid)
      obtain ⟨found, hmem, hsame⟩ := hfound session hsession _ (Int.le_refl _)
      have hget := (hlisted _ found hmem).2
      rw [← hsame]
      exact List.mem_map_of_mem (RunStore.getRunSession_spec hget).1
    have hlen := (List.subperm_of_subset (List.nodup_dedup _) hlive).length_le
    simp only [List.length_map] at hlen
    exact Nat.le_trans hlen hkept.1
  · intro hfits
    obtain ⟨harchive, hnodup, hlatest, -⟩ := h.latest hfits
    refine ⟨?_, fun session hsession => ⟨_, hfound session hsession⟩⟩
    intro limit session hsession
    have hmem : session ∈ t.runs := by
      have hstored := RunStore.mem_stored_of_listed hsession
      simpa [RunStore.stored, harchive] using hstored
    exact ⟨hlatest session hmem, getRunSession_of_mem hnodup hmem⟩

end

theorem exists_savedRuns (hash : MerkleHash) (sessions : List RunSession) :
    ∃ log t, SavedRuns config hash log t ∧ (RunStore.saveAll config sessions {}).SameFiles t ∧
      log.map runId = sessions.map runId := by
  induction sessions using List.reverseRecOn with
  | nil => exact ⟨[], {}, .start, .refl {}, rfl⟩
  | append_singleton sessions session ih =>
    obtain ⟨log, s, hsaved, hfiles, hids⟩ := ih
    obtain ⟨t, hsave, htfiles⟩ := exists_save config hash session s
    refine ⟨_, t, hsaved.save hsave, ?_, ?_⟩
    · rw [RunStore.saveAll, List.foldl_append]
      exact (@RunStore.SameFiles.saveSession config session _ _ hfiles).2.trans htfiles
    · have hid : (s.saveSession config session).1.runId = session.runId :=
        placeSession_runId session s.runs
      simp [hids, hid]

/-- Two runs, saved in the order of their creation, in a live file that holds a
hundred. -/
theorem listed_runs_latest_iff_sample :
    ∃ log t, SavedRuns ⟨100⟩ plainHash log t ∧ log.length = 2 ∧
      ∀ limit, ∀ session ∈ t.listRunSessions limit,
        latestSaved log session.runId = some session ∧
          t.getRunSession session.runId = some session := by
  obtain ⟨log, t, hsaved, -, hids⟩ :=
    exists_savedRuns ⟨100⟩ plainHash [queuedSession "a" "1", queuedSession "b" "2"]
  have hlen : log.length = 2 := by simpa using congrArg List.length hids
  refine ⟨log, t, hsaved, hlen, ((listed_runs_latest_iff hsaved).mpr ?_).1⟩
  rw [hids]
  decide +kernel

/-- With one run more than the live file holds, the oldest one is listed and
cannot be read back. -/
theorem archived_run_not_found :
    ¬ ∀ (config : StoreConfig) (hash : MerkleHash) (log : List RunSession) (t : RunStore),
      SavedRuns config hash log t → ∀ limit, ∀ session ∈ t.listRunSessions limit,
        latestSaved log session.runId = some session ∧
          t.getRunSession session.runId = some session := by
  intro hclaim
  obtain ⟨log, t, hsaved, hfiles, -⟩ :=
    exists_savedRuns ⟨0⟩ plainHash (queuedSession "run" "0" :: fiftyRuns)
  have hlisted : queuedSession "run" "0" ∈ t.listRunSessions 100 := by
    rw [RunStore.listRunSessions, hfiles.1, hfiles.2.1]
    decide +kernel
  have hget := (hclaim _ _ log t hsaved 100 _ hlisted).2
  rw [hfiles.getRunSession] at hget
  revert hget
  decide +kernel

end OrbitalMesh
