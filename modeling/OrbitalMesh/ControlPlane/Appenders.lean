import OrbitalMesh.ControlPlane.LiveRun

/-!
# Sequences under concurrent appends

`append_run_event` takes the next sequence from the cursor of the session, under
the append lock, and moves that cursor in a later section.  An append in between
reads a cursor that is behind the log.  In every interleaving of appends and readers
the sequences are distinct and without gaps, and no reader is overtaken, exactly when
each append found the cursor at the end of the log (`event_sequences_sound_iff`).
-/

namespace OrbitalMesh

open Atomic

/-- A reader that asks `rounds` times for the events after the last it has
seen. -/
def follow (runId : String) : Nat → Int → StoreProg Unit
  | 0, _ => pure ()
  | rounds + 1, seen => do
    let events ← FileStateStore.listRunEvents runId seen
    follow runId rounds (events.foldl (fun seen event => max seen event.sequence) seen)

/-- The programs that run at the same time on one run. -/
inductive Client (hash : MerkleHash) (runId : String) : StoreProg Unit → Prop
  | append (draft : EventDraft) (h : draft.runId = runId) :
      Client hash runId (do
        let _ ← FileStateStore.appendRunEvent hash draft
        pure ())
  | reader (rounds : Nat) : Client hash runId (follow runId rounds 0)

def loggedBy : Event StoreOp StoreResp → Option RunEvent
  | ⟨.logNew _, event⟩ => some event
  | _ => none

variable (runId : String)

/-- The event that a section writes to the log of the run. -/
def loggedFor : Event StoreOp StoreResp → Option RunEvent
  | ⟨.logNew draft, event⟩ => if draft.runId = runId then some event else none
  | ⟨.logGiven given, event⟩ => if given.runId = runId then some event else none
  | _ => none

def shownBy : Event StoreOp StoreResp → List RunEvent
  | ⟨.readCache other _, some events⟩ => if other = runId then events else []
  | ⟨.readLog other, events⟩ => if other = runId then events else []
  | _ => []

/-- The log counts from one without gaps. -/
def Gapless (records : List RunEvent) : Prop :=
  records.map RunEvent.sequence = (List.range records.length).map fun i : Nat => (i : Int) + 1

def NotOvertaken (earlier later : Event StoreOp StoreResp) : Prop :=
  ∀ seen ∈ shownBy runId earlier, ∀ event, loggedBy later = some event →
    seen.sequence < event.sequence

/-- The sequences that were assigned are distinct, the log has no gaps, and no
reader is overtaken. -/
structure SequencesSound (trace : List (Event StoreOp StoreResp))
    (s : RunStore) : Prop where
  distinct : ((trace.filterMap loggedBy).map RunEvent.sequence).Nodup
  gapless : Gapless (s.records runId)
  followed : trace.Pairwise (NotOvertaken runId)

def StoreOp.CursorCurrent : StoreOp → RunStore → Prop
  | .logNew draft, s =>
    ∀ session, s.getRunSession draft.runId = some session →
      session.latestEventSequence ≠ 0 →
      session.latestEventSequence = (s.records draft.runId).length
  | _, _ => True

def currentStep (config : StoreConfig) (hash : MerkleHash) (op : StoreOp) (s : RunStore)
    (r : StoreResp op) (t : RunStore) : Prop :=
  op.CursorCurrent s ∧ storeStep config hash op s r t

variable {records : List RunEvent} {event : RunEvent}

theorem gapless_concat :
    Gapless (records ++ [event]) ↔
      Gapless records ∧ event.sequence = (records.length : Int) + 1 := by
  unfold Gapless
  rw [List.map_append, List.length_append, List.length_singleton, List.range_succ,
    List.map_append]
  constructor
  · intro h
    obtain ⟨hinit, hlast⟩ := List.append_inj h (by simp)
    exact ⟨hinit, by simpa using hlast⟩
  · rintro ⟨hinit, hlast⟩
    rw [hinit]
    simp [hlast]

theorem Gapless.mem_le (h : Gapless records) (hmem : event ∈ records) :
    event.sequence ≤ records.length := by
  have hsequence := @List.mem_map_of_mem _ _ _ _ RunEvent.sequence hmem
  rw [h, List.mem_map] at hsequence
  obtain ⟨i, hi, heq⟩ := hsequence
  rw [List.mem_range] at hi
  omega

theorem Gapless.nodup (h : Gapless records) : (records.map RunEvent.sequence).Nodup := by
  rw [h]
  refine List.Nodup.map ?_ List.nodup_range
  intro i j hij
  dsimp only at hij
  omega

theorem mem_of_mem_loadEvents (h : event ∈ loadEvents records) : event ∈ records := by
  induction records using List.reverseRecOn with
  | nil => cases h
  | append_singleton records last ih =>
    rcases mem_loadEvents_concat h with rfl | hold
    · simp
    · exact List.mem_append_left _ (ih hold)

section

variable {s : RunStore} {runId : String}

theorem RunStore.sequenceFromLog_eq (h : Gapless (s.records runId)) :
    (s.sequenceFromLog runId).1 = (s.records runId).length + 1 := by
  show ((s.diskEvents runId).getLast?.map fun event => event.sequence + 1).getD 1 = _
  have hsorted := pairwise_bySequence (dedupeEvents (s.records runId))
  cases hlast : (s.diskEvents runId).getLast? with
  | none =>
    rw [List.getLast?_eq_none_iff] at hlast
    cases hrecords : s.records runId using List.reverseRecOn with
    | nil => rfl
    | append_singleton records event =>
      have hmem := self_mem_loadEvents records event
      rw [← hrecords] at hmem
      exact absurd hlast (List.ne_nil_of_mem hmem)
  | some last =>
    obtain ⟨before, hdisk⟩ := List.getLast?_eq_some_iff.mp hlast
    have hlastMem : last ∈ loadEvents (s.records runId) := by
      show last ∈ s.diskEvents runId
      simp [hdisk]
    have hle := h.mem_le (mem_of_mem_loadEvents hlastMem)
    cases hrecords : s.records runId using List.reverseRecOn with
    | nil =>
      rw [hrecords] at hlastMem
      cases hlastMem
    | append_singleton records event =>
      have hevent : event ∈ s.diskEvents runId := by
        rw [RunStore.diskEvents, hrecords]
        exact self_mem_loadEvents records event
      have hsequence : event.sequence = ((records ++ [event]).length : Int) := by
        rw [hrecords] at h
        rw [(gapless_concat.mp h).2]
        simp
      have hbelow : event.sequence ≤ last.sequence := by
        rw [hdisk] at hevent
        rcases List.mem_append.mp hevent with hbefore | hself
        · have hpair : (before ++ [last]).Pairwise
              (fun a b : RunEvent => a.sequence ≤ b.sequence) := hdisk ▸ hsorted
          exact (List.pairwise_append.mp hpair).2.2 event hbefore last (by simp)
        · rw [List.mem_singleton.mp hself]
      rw [hrecords] at hle
      simp only [Option.map_some, Option.getD_some]
      omega

theorem RunStore.nextEventSequence_iff (h : Gapless (s.records runId)) :
    (s.nextEventSequence runId).1 = (s.records runId).length + 1 ↔
      ∀ session, s.getRunSession runId = some session → session.latestEventSequence ≠ 0 →
        session.latestEventSequence = (s.records runId).length := by
  have hlog := RunStore.sequenceFromLog_eq h
  unfold RunStore.nextEventSequence
  cases hget : s.getRunSession runId with
  | none => simp [hlog]
  | some session =>
    by_cases hzero : session.latestEventSequence = 0
    · simp [hzero, hlog]
    · simp [hzero]

end

/-- The sections of the clients: events are logged for the run only, and what is
cached for it is in its log. -/
def StoreOp.OfClient : StoreOp → RunStore → Prop
  | .logNew draft, _ => draft.runId = runId
  | .logGiven _, _ => False
  | .cacheEvent other event, s => other = runId → event ∈ s.records runId
  | .storeCache other events, s => other = runId → ∀ event ∈ events, event ∈ s.records runId
  | _, _ => True

def appendDiscipline (step : (op : StoreOp) → RunStore → StoreResp op → RunStore → Prop)
    (runId : String) : Discipline StoreOp StoreResp RunStore where
  step
  rely s t := ∀ event ∈ s.records runId, event ∈ t.records runId
  allowed op s := op.OfClient runId s
  earn _ _ := 0
  spend _ _ := 0
  rely_refl _ _ h := h
  rely_trans hst htu event h := htu event (hst event h)

section

variable {step : (op : StoreOp) → RunStore → StoreResp op → RunStore → Prop}
variable {config : StoreConfig} {hash : MerkleHash} {runId : String}

def KeepsOrder (step : (op : StoreOp) → RunStore → StoreResp op → RunStore → Prop) (runId : String)
    {α : Type} (p : StoreProg α) : Prop :=
  ∀ c s, wp (appendDiscipline step runId) p (fun _ _ _ => True) c s

variable {α β : Type}

theorem keepsOrder_ret (a : α) : KeepsOrder step runId (.ret a : StoreProg α) :=
  fun _ _ _ _ => trivial

theorem keepsOrder_bind {p : StoreProg α} {f : α → StoreProg β} (hp : KeepsOrder step runId p)
    (hf : ∀ a, KeepsOrder step runId (f a)) : KeepsOrder step runId (p.bind f) :=
  fun c s => wp_bind ((hp c s).mono fun a c t _ => hf a c t)

theorem keepsOrder_issue {op : StoreOp} {f : StoreResp op → StoreProg β}
    (hop : ∀ s, op.OfClient runId s) (hf : ∀ r, KeepsOrder step runId (f r)) :
    KeepsOrder step runId ((Prog.issue op).bind f) :=
  fun _ _ t _ => ⟨hop t, fun r u _ => ⟨Nat.zero_le _, hf r _ u⟩⟩

variable (hstep : ∀ op s r t, step op s r t → storeStep config hash op s r t)
include hstep

/-- Whatever is loaded is in the log when it is cached. -/
theorem keepsOrder_load (other : String) :
    KeepsOrder step runId (FileStateStore.loadRunEventsFromDisk other) := by
  intro _ s t _
  refine ⟨trivial, fun events u hread => ⟨Nat.zero_le _, fun v huv => ⟨?_, ?_⟩⟩⟩
  · rintro rfl event hevent
    obtain ⟨rfl, rfl⟩ := hstep _ _ _ _ hread
    exact huv event (mem_of_mem_loadEvents hevent)
  · exact fun _ w _ => ⟨Nat.zero_le _, keepsOrder_ret events _ w⟩

theorem keepsOrder_materialize (other : String) (force : Bool) :
    KeepsOrder step runId (FileStateStore.materializeVault other force) := by
  refine keepsOrder_issue (fun _ => trivial) fun due => ?_
  cases due with
  | false => exact keepsOrder_ret ()
  | true =>
    refine keepsOrder_issue (fun _ => trivial) fun found => ?_
    cases found with
    | none => exact keepsOrder_ret ()
    | some session =>
      exact keepsOrder_bind (keepsOrder_load hstep other) fun _ => keepsOrder_ret ()

theorem keepsOrder_save (session : RunSession) (read : Option RunSession) :
    KeepsOrder step runId (FileStateStore.saveRunSession session read) :=
  keepsOrder_issue (fun _ => trivial) fun stored =>
    keepsOrder_bind (keepsOrder_materialize hstep stored.runId _) fun _ => keepsOrder_ret stored

theorem keepsOrder_advance (event : RunEvent) :
    KeepsOrder step runId (FileStateStore.advanceSessionEventCursor hash runId event) := by
  refine keepsOrder_issue (fun _ => trivial) fun found => ?_
  cases found with
  | none => exact keepsOrder_ret ()
  | some session =>
    dsimp only
    split
    · exact keepsOrder_ret ()
    · refine keepsOrder_bind
        (keepsOrder_bind (keepsOrder_load hstep runId) fun _ => keepsOrder_ret _)
        fun snapshot => ?_
      refine keepsOrder_issue (fun _ => trivial) fun now => ?_
      exact keepsOrder_bind (keepsOrder_save hstep _ _) fun _ => keepsOrder_ret ()

theorem keepsOrder_append {draft : EventDraft} (hdraft : draft.runId = runId) :
    KeepsOrder step runId (FileStateStore.appendRunEvent hash draft) := by
  subst hdraft
  intro _ s t _
  refine ⟨rfl, fun event u hlog => ⟨Nat.zero_le _, fun v huv => ⟨fun _ => ?_, ?_⟩⟩⟩
  · obtain ⟨uuid, now, hlog⟩ := hstep _ _ _ _ hlog
    refine huv event ?_
    rw [(RunStore.logNewEvent_spec hlog).2.1.records]
    exact List.mem_append_right _ (List.mem_singleton_self _)
  · intro _ w _
    refine ⟨Nat.zero_le _, ?_⟩
    exact keepsOrder_bind (keepsOrder_advance hstep event) (fun _ => keepsOrder_ret event) _ w

theorem keepsOrder_follow (rounds : Nat) (seen : Int) :
    KeepsOrder step runId (follow runId rounds seen) := by
  induction rounds generalizing seen with
  | zero => exact keepsOrder_ret ()
  | succ rounds ih =>
    refine keepsOrder_bind ?_ fun events => ih _
    refine keepsOrder_issue (fun _ => trivial) fun found => ?_
    cases found with
    | some events => exact keepsOrder_ret events
    | none => exact keepsOrder_bind (keepsOrder_load hstep runId) fun _ => keepsOrder_ret _

theorem Client.keepsOrder {p : StoreProg Unit} (h : Client hash runId p) :
    KeepsOrder step runId p := by
  cases h with
  | append draft hdraft =>
    exact keepsOrder_bind (keepsOrder_append hstep hdraft) fun _ => keepsOrder_ret ()
  | reader rounds => exact keepsOrder_follow hstep rounds 0

end

section

variable {config : StoreConfig} {hash : MerkleHash} {runId : String} {s t : RunStore}
variable {trace : List (Event StoreOp StoreResp)} {pool : Pool StoreOp StoreResp RunStore Unit}
  {op : StoreOp} {r : StoreResp op}

theorem records_of_logs {other : String} {event : RunEvent}
    (h : RunStore.Logs other event s t) : t.records runId =
      s.records runId ++ (if other = runId then some event else none).toList := by
  split
  · next hother => exact hother ▸ h.records
  · next hother => simpa using h.others runId (Ne.symm hother)

theorem records_step (h : storeStep config hash op s r t) :
    t.records runId = s.records runId ++ (loggedFor runId ⟨op, r⟩).toList := by
  cases op with
  | logNew draft =>
    obtain ⟨uuid, now, hlog⟩ := h
    exact records_of_logs (RunStore.logNewEvent_spec hlog).2.1
  | logGiven given => exact records_of_logs (RunStore.logGivenEvent_spec h).2.1
  | saveSession session read =>
    rw [show t = (s.saveSession config session).2 by
      rw [show s.saveSession config session = _ from h]]
    exact (List.append_nil _).symm
  | cacheEvent other event | storeCache other events | timestamp =>
    obtain rfl := h
    exact (List.append_nil _).symm
  | readCache other after | readLog other | getSession other | mirrorDue other force =>
    obtain ⟨-, rfl⟩ := h
    exact (List.append_nil _).symm

theorem records_of_step (hallowed : op.OfClient runId s) (h : storeStep config hash op s r t) :
    t.records runId = s.records runId ++ (loggedBy ⟨op, r⟩).toList := by
  rw [records_step h]
  cases op with
  | logNew draft => rw [show loggedFor runId ⟨.logNew draft, r⟩ = some r from if_pos hallowed]; rfl
  | logGiven event => exact absurd hallowed id
  | _ => rfl

def RunStore.CacheLogged (runId : String) (s : RunStore) : Prop :=
  ∀ cached, s.cache[runId]? = some cached → ∀ event ∈ cached, event ∈ s.records runId

theorem RunStore.CacheLogged.storeCache (h : s.CacheLogged runId) {other : String}
    {events : List RunEvent} (hevents : other = runId → ∀ event ∈ events,
      event ∈ s.records runId) : (s.storeCache other events).CacheLogged runId := by
  intro cached hcached event hevent
  by_cases hother : other = runId
  · subst hother
    obtain rfl := Option.some.inj ((Table.get_insert_self ..).symm.trans hcached)
    exact hevents rfl event (List.mem_of_mem_drop hevent)
  · exact h cached ((Table.get_insert_of_ne _ _ (Ne.symm hother)).symm.trans hcached) event hevent

theorem RunStore.CacheLogged.step (h : s.CacheLogged runId) (hallowed : op.OfClient runId s)
    (hstep : storeStep config hash op s r t) : t.CacheLogged runId := by
  have hkept : t.cache = s.cache → t.CacheLogged runId := by
    intro hcache cached hcached event hevent
    rw [records_of_step hallowed hstep]
    exact List.mem_append_left _ (h cached (hcache ▸ hcached) event hevent)
  cases op with
  | logNew draft =>
    have hrecords := records_of_step hallowed hstep
    obtain rfl : draft.runId = runId := hallowed
    obtain ⟨uuid, now, hlog⟩ := hstep
    obtain ⟨-, -, hcache⟩ := RunStore.logNewEvent_spec hlog
    have hnext : (s.nextEventSequence draft.runId).2.CacheLogged draft.runId := by
      unfold RunStore.nextEventSequence
      split
      · split
        · exact h
        · exact h.storeCache fun _ _ => mem_of_mem_loadEvents
      · exact h.storeCache fun _ _ => mem_of_mem_loadEvents
    intro cached hcached event hevent
    rw [hrecords]
    refine List.mem_append_left _ ?_
    rw [← (RunStore.sameFiles_nextEventSequence s draft.runId).records]
    exact hnext cached (hcache ▸ hcached) event hevent
  | logGiven event => exact absurd hallowed id
  | cacheEvent other event =>
    obtain rfl := hstep
    refine h.storeCache ?_
    rintro rfl cached hcached
    rcases List.mem_append.mp hcached with hold | hnew
    · cases hcache : s.cache[other]? with
      | none => simp [hcache] at hold
      | some old => exact h old hcache cached (by simpa [hcache] using hold)
    · rw [List.mem_singleton.mp hnew]
      exact hallowed rfl
  | storeCache other events =>
    obtain rfl := hstep
    exact h.storeCache hallowed
  | readCache other after => exact hkept (by rw [hstep.2])
  | readLog other => exact hkept (by rw [hstep.2])
  | getSession other => exact hkept (by rw [hstep.2])
  | mirrorDue other force => exact hkept (by rw [hstep.2])
  | timestamp => exact hkept (by rw [show t = s from hstep])
  | saveSession session read =>
    refine hkept ?_
    rw [show t = (s.saveSession config session).2 by
      rw [show s.saveSession config session = _ from hstep]]
    rfl

theorem shown_of_step (h : s.CacheLogged runId) (hstep : storeStep config hash op s r t) :
    ∀ seen ∈ shownBy runId ⟨op, r⟩, seen ∈ s.records runId := by
  intro seen hseen
  cases op with
  | readCache other after =>
    obtain ⟨rfl, -⟩ := hstep
    unfold RunStore.readCache at hseen
    cases hcache : s.cache[other]? with
    | none => simp [shownBy, hcache] at hseen
    | some cached =>
      rw [hcache] at hseen
      dsimp only at hseen
      split at hseen
      · simp only [shownBy] at hseen
        split at hseen
        · next hother =>
          subst hother
          exact h cached hcache seen (List.mem_of_mem_filter hseen)
        · cases hseen
      · simp [shownBy] at hseen
  | readLog other =>
    obtain ⟨rfl, -⟩ := hstep
    simp only [shownBy] at hseen
    split at hseen
    · next hother =>
      subst hother
      exact mem_of_mem_loadEvents hseen
    · cases hseen
  | _ => simp [shownBy] at hseen

theorem PoolRun.ofClients
    {step : (op : StoreOp) → RunStore → StoreResp op → RunStore → Prop}
    (hstep : ∀ op s r t, step op s r t → storeStep config hash op s r t)
    (h : PoolRun step (Client hash runId) ⟨[], s⟩ trace pool) :
    PoolRun (fun op s r t => op.OfClient runId s ∧ step op s r t) (Client hash runId) ⟨[], s⟩
      trace pool := by
  have hfunded := @PoolRun.funded _ _ _ _ (appendDiscipline step runId) (Client hash runId) s
    trace pool (fun p hp t _ => hp.keepsOrder hstep 0 t) ?_ h
  · exact hfunded.2.1
  · intro op u r v _ hallowed hone event hevent
    rw [records_of_step hallowed (hstep op u r v hone)]
    exact List.mem_append_left _ hevent

/-- What holds along a run whose appends find a current cursor. -/
structure RunningSound (runId : String) (trace : List (Event StoreOp StoreResp)) (s : RunStore) :
    Prop where
  cache : s.CacheLogged runId
  shown : ∀ entry ∈ trace, ∀ seen ∈ shownBy runId entry, seen ∈ s.records runId
  logged : trace.filterMap loggedBy = s.records runId
  gapless : Gapless (s.records runId)
  followed : trace.Pairwise (NotOvertaken runId)

theorem RunningSound.step (h : RunningSound runId trace s) (hclient : op.OfClient runId s)
    (hstep : currentStep config hash op s r t) : RunningSound runId (trace ++ [⟨op, r⟩]) t := by
  obtain ⟨hcurrent, hstep⟩ := hstep
  have hrecords := records_of_step hclient hstep
  have hshown := shown_of_step h.cache hstep
  -- an event that is logged comes right after all the others
  have hsequence : ∀ event, loggedBy ⟨op, r⟩ = some event →
      event.sequence = (s.records runId).length + 1 := by
    intro event hevent
    cases op with
    | logNew draft =>
      obtain rfl : draft.runId = runId := hclient
      obtain ⟨uuid, now, hlog⟩ := hstep
      obtain rfl := Option.some.inj hevent
      rw [← (RunStore.nextEventSequence_iff h.gapless).mpr hcurrent]
      exact congrArg RunEvent.sequence (RunStore.logNewEvent_spec hlog).1
    | _ => cases hevent
  refine ⟨h.cache.step hclient hstep, ?_, ?_, ?_, ?_⟩
  · intro entry hentry seen hseen
    rw [hrecords]
    refine List.mem_append_left _ ?_
    rcases List.mem_append.mp hentry with hold | hnew
    · exact h.shown entry hold seen hseen
    · rw [List.mem_singleton.mp hnew] at hseen
      exact hshown seen hseen
  · rw [List.filterMap_append, h.logged, hrecords]
    cases hlogged : loggedBy ⟨op, r⟩ with
    | none | some event => simp [hlogged]
  · rw [hrecords]
    cases hlogged : loggedBy ⟨op, r⟩ with
    | none => simpa using h.gapless
    | some event => exact gapless_concat.mpr ⟨h.gapless, hsequence event hlogged⟩
  · refine List.pairwise_append.mpr ⟨h.followed, List.pairwise_singleton _ _, ?_⟩
    intro entry hentry later hlater seen hseen event hevent
    rw [List.mem_singleton.mp hlater] at hevent
    have hle := h.gapless.mem_le (h.shown entry hentry seen hseen)
    have hnext := hsequence event hevent
    omega

theorem current_of_gapless
    (h : PoolRun (fun op s r t => op.OfClient runId s ∧ storeStep config hash op s r t)
      (Client hash runId) ⟨[], s⟩ trace pool) (hgapless : Gapless (pool.state.records runId)) :
    PoolRun (currentStep config hash) (Client hash runId) ⟨[], s⟩ trace pool := by
  induction h with
  | refl => exact .refl
  | tail _ last ih =>
    cases last with
    | start hp => exact (ih hgapless).tail (.start hp)
    | crash => exact (ih hgapless).tail .crash
    | @turn op k r u v before after hstep =>
      obtain ⟨hclient, hstep⟩ := hstep
      rw [records_of_step hclient hstep] at hgapless
      cases op with
      | logNew draft =>
        obtain rfl : draft.runId = runId := hclient
        obtain ⟨hbefore, hsequence⟩ := gapless_concat.mp hgapless
        obtain ⟨uuid, now, hlog⟩ := hstep
        have hnext : (u.nextEventSequence draft.runId).1 =
            (u.records draft.runId).length + 1 := by
          rw [← hsequence]
          exact (congrArg RunEvent.sequence (RunStore.logNewEvent_spec hlog).1).symm
        exact (ih hbefore).tail (.turn
          ⟨(RunStore.nextEventSequence_iff hbefore).mp hnext, uuid, now, hlog⟩)
      | _ =>
        have hbefore : Gapless (u.records runId) := by simpa [loggedBy] using hgapless
        exact (ih hbefore).tail (.turn ⟨trivial, hstep⟩)

/-- **Sequences under concurrent appends** are sound for every reader exactly when each append
found the cursor at the end of the log. -/
theorem event_sequences_sound_iff (hempty : s.records runId = []) (hcache : s.cache[runId]? = none)
    (h : PoolRun (storeStep config hash) (Client hash runId) ⟨[], s⟩ trace pool) :
    SequencesSound runId trace pool.state ↔
      PoolRun (currentStep config hash) (Client hash runId) ⟨[], s⟩ trace pool := by
  constructor
  · intro hsound
    exact current_of_gapless (PoolRun.ofClients (fun _ _ _ _ => id) h) hsound.gapless
  · intro hcurrent
    have hclients := PoolRun.ofClients (fun _ _ _ _ hstep => hstep.2) hcurrent
    have hstart : RunningSound runId [] s :=
      ⟨fun cached hcached => by simp [hcache] at hcached, by simp, by simp [hempty],
        by simp [hempty, Gapless], .nil⟩
    have hsound := hclients.history (RunningSound runId) hstart
      fun _ _ _ _ _ hbefore hstep => hbefore.step hstep.1 hstep.2
    refine ⟨?_, hsound.gapless, hsound.followed⟩
    rw [hsound.logged]
    exact hsound.gapless.nodup

/-- **The log is the history.**  Whatever programs run and die, the log of a run is followed by
what they write to it, in their order, and a reading of its files sees what was written before. -/
theorem run_log_is_history {startable : StoreProg Unit → Prop}
    (h : PoolRun (storeStep config hash) startable ⟨[], s⟩ trace pool) (runId : String) :
    pool.state.records runId = s.records runId ++ trace.filterMap (loggedFor runId) ∧
      ∀ before events after, trace = before ++ ⟨.readLog runId, events⟩ :: after →
        events = loadEvents (s.records runId ++ before.filterMap (loggedFor runId)) := by
  refine h.history (fun trace u =>
    u.records runId = s.records runId ++ trace.filterMap (loggedFor runId) ∧
      ∀ before events after, trace = before ++ ⟨.readLog runId, events⟩ :: after →
        events = loadEvents (s.records runId ++ before.filterMap (loggedFor runId)))
    ⟨by simp, by simp⟩ ?_
  rintro trace op u r v ⟨hrecords, hread⟩ hstep
  constructor
  · rw [records_step hstep, hrecords, List.filterMap_append, List.append_assoc]
    cases hlogged : loggedFor runId ⟨op, r⟩ <;> simp [hlogged]
  · intro before events after heq
    induction after using List.reverseRecOn with
    | nil =>
      obtain ⟨rfl, hlast⟩ := List.append_inj' heq rfl
      cases hlast
      rw [hstep.1, RunStore.diskEvents, hrecords]
    | append_singleton after last =>
      rw [← List.cons_append, ← List.append_assoc] at heq
      exact hread before events after (List.append_inj' heq rfl).1

end

def sampleDraft : EventDraft where
  runId := "run"
  stage := "queued"
  eventType := "note"
  payload := []

def sampleAppend : StoreProg Unit := do
  let _ ← FileStateStore.appendRunEvent plainHash sampleDraft
  pure ()

theorem sampleAppend_client : Client plainHash "run" sampleAppend := .append sampleDraft rfl

def StoreOp.findsCursor (s : RunStore) : StoreOp → Bool
  | .logNew draft =>
    (s.getRunSession draft.runId).all fun session =>
      session.latestEventSequence == 0 ||
        session.latestEventSequence == ((s.records draft.runId).length : Int)
  | _ => true

theorem StoreOp.findsCursor_current {op : StoreOp} {s : RunStore} (h : op.findsCursor s = true) :
    op.CursorCurrent s := by
  cases op with
  | logNew draft =>
    intro session hget hne
    simp only [findsCursor, hget, Option.all_some, Bool.or_eq_true, beq_iff_eq] at h
    exact h.resolve_left hne
  | _ => trivial

def currentAnswer (op : StoreOp) (s : RunStore) : Option (StoreResp op × RunStore) :=
  if op.findsCursor s then sampleAnswer ⟨100⟩ plainHash op s else none

theorem currentAnswer_step (op : StoreOp) (s : RunStore) (r : StoreResp op) (t : RunStore)
    (h : currentAnswer op s = some (r, t)) : currentStep ⟨100⟩ plainHash op s r t := by
  by_cases hfinds : op.findsCursor s = true
  · rw [currentAnswer, if_pos hfinds] at h
    exact ⟨StoreOp.findsCursor_current hfinds, sampleAnswer_step op s r t h⟩
  · rw [currentAnswer, if_neg hfinds] at h
    cases h

theorem event_sequences_sound_iff_sample :
    ∃ trace t, PoolRun (storeStep ⟨100⟩ plainHash) (Client plainHash "run") ⟨[], storeWithRun⟩
        trace ⟨[], t⟩ ∧
      (t.records "run").map RunEvent.sequence = [1, 2] ∧ SequencesSound "run" trace t := by
  set script := [(currentAnswer, 8, sampleAppend), (currentAnswer, 8, sampleAppend)] with hscript
  have hoverview : (Prog.execAll script storeWithRun).map
      (fun t => (t.records "run").map RunEvent.sequence) = some [1, 2] := by
    decide +kernel
  cases hexec : Prog.execAll script storeWithRun with
  | none => simp [hexec] at hoverview
  | some t =>
    simp only [hexec, Option.map_some, Option.some.injEq] at hoverview
    obtain ⟨trace, hrun⟩ := @Prog.execAll_poolRun _ _ _ _ (currentStep ⟨100⟩ plainHash)
      (Client plainHash "run") script
      (by simp [hscript, sampleAppend_client]) (by simp [hscript]; exact currentAnswer_step)
      _ _ hexec
    have hplain := hrun.mono fun _ _ _ _ hstep => hstep.2
    exact ⟨trace, t, hplain, hoverview,
      (event_sequences_sound_iff (by simp [RunStore.records, storeWithRun])
        (Table.get_empty "run") hplain).mpr hrun⟩

def sampleRest (event : RunEvent) : StoreProg Unit :=
  Prog.bind (do
    FileStateStore.cacheEvent "run" event
    FileStateStore.advanceSessionEventCursor plainHash "run" event
    pure event) fun _ => .ret ()

theorem sampleAppend_eq : sampleAppend = .call (.logNew sampleDraft) sampleRest := rfl

/-- An append that is cut off after its write. -/
theorem run_log_is_history_sample :
    ∃ trace t, PoolRun (storeStep ⟨100⟩ plainHash) (Client plainHash "run") ⟨[], storeWithRun⟩
        trace ⟨[], t⟩ ∧
      (t.records "run").map RunEvent.sequence = [1] ∧
      t.records "run" = trace.filterMap (loggedFor "run") := by
  have hclient : Client plainHash "run" (.call (.logNew sampleDraft) sampleRest) :=
    sampleAppend_eq ▸ sampleAppend_client
  have hlog : storeStep ⟨100⟩ plainHash (.logNew sampleDraft) storeWithRun _ _ :=
    ⟨"uuid", "1", rfl⟩
  have hrun := ((PoolRun.refl.tail (.start hclient)).tail
    (@PoolStep.turn _ _ _ _ _ _ _ _ _ _ _ [] [] hlog)).tail
    (@PoolStep.crash _ _ _ _ _ _ _ [] [] _)
  exact ⟨_, _, hrun, by decide +kernel, (run_log_is_history hrun "run").1⟩

/-- After one append, two more read the cursor before either moves it: both get
the second sequence. -/
theorem concurrent_appends_share_sequence :
    ¬ ∀ (config : StoreConfig) (hash : MerkleHash) (runId : String) (s : RunStore)
      (trace : List (Event StoreOp StoreResp)) (pool : Pool StoreOp StoreResp RunStore Unit),
      s.records runId = [] → s.cache[runId]? = none →
      PoolRun (storeStep config hash) (Client hash runId) ⟨[], s⟩ trace pool →
      SequencesSound runId trace pool.state := by
  intro hclaim
  set script := [(sampleAnswer ⟨100⟩ plainHash, 8, sampleAppend)] with hscript
  set log := fun s : RunStore => s.logNewEvent plainHash sampleDraft "uuid" "1" with hlog
  have hoverview : (Prog.execAll script storeWithRun).map
      (fun t => ((log (log t).2).2.records "run").map RunEvent.sequence) = some [1, 2, 2] := by
    decide +kernel
  cases hexec : Prog.execAll script storeWithRun with
  | none => simp [hexec] at hoverview
  | some t =>
    simp only [hexec, Option.map_some, Option.some.injEq] at hoverview
    obtain ⟨trace, hrun⟩ := @Prog.execAll_poolRun _ _ _ _ (storeStep ⟨100⟩ plainHash)
      (Client plainHash "run") script
      (by simp [hscript, sampleAppend_client]) (by simp [hscript]; exact sampleAnswer_step)
      _ _ hexec
    have hclient : Client plainHash "run" (.call (.logNew sampleDraft) sampleRest) :=
      sampleAppend_eq ▸ sampleAppend_client
    have hfirst : storeStep ⟨100⟩ plainHash (.logNew sampleDraft) t (log t).1 (log t).2 :=
      ⟨"uuid", "1", rfl⟩
    have hsecond : storeStep ⟨100⟩ plainHash (.logNew sampleDraft) (log t).2 (log (log t).2).1
        (log (log t).2).2 := ⟨"uuid", "1", rfl⟩
    have htwo := (((hrun.tail (.start hclient)).tail (.start hclient)).tail
      (@PoolStep.turn _ _ _ _ _ _ _ _ _ _ _ [] _ hfirst)).tail
      (@PoolStep.turn _ _ _ _ _ _ _ _ _ _ _ [sampleRest (log t).1] [] hsecond)
    have hsound := hclaim _ _ "run" _ _ _ (by simp [RunStore.records, storeWithRun])
      (Table.get_empty "run") htwo
    have hgapless := hsound.gapless.nodup
    rw [hoverview] at hgapless
    exact absurd hgapless (by decide)

end OrbitalMesh
