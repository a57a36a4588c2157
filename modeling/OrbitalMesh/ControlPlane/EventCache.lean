import OrbitalMesh.Base.SortedTail
import OrbitalMesh.ControlPlane.LiveRun

/-!
# The cached tail of a run's events

`list_run_events` answers from a tail of the log kept in memory when that tail seems
to reach back far enough, and loads the log otherwise.  The two answers agree as long
as the tail is one that loading could have left (`RunStore.CacheFaithful`).  An append
keeps this when the event goes to the end of the log, or when moving the cursor loads
the log again (`RunStore.CacheFollows`, `cached_reads_equal_disk`).
-/

namespace OrbitalMesh

open Atomic SortedTail FileStateStore RunStore

theorem eventCacheSize_pos : 0 < eventCacheSize := by decide

theorem RunStore.cacheTail_eq (events : List RunEvent) :
    cacheTail events = lastOf eventCacheSize events := rfl

theorem orderedInsert_concat {α : Type} (r : α → α → Prop) [DecidableRel r] {a last : α}
    (xs : List α) (h : r a last) :
    List.orderedInsert r a (xs ++ [last]) = List.orderedInsert r a xs ++ [last] := by
  induction xs with
  | nil => simp [h]
  | cons x rest ih =>
    rw [List.cons_append, List.orderedInsert_cons, List.orderedInsert_cons]
    split
    · rfl
    · rw [ih]
      rfl

variable {event : RunEvent}

theorem bySequence_concat {events : List RunEvent}
    (h : ∀ known ∈ events, known.sequence < event.sequence) :
    bySequence (events ++ [event]) = bySequence events ++ [event] := by
  induction events with
  | nil => rfl
  | cons known rest ih =>
    simp only [List.mem_cons, forall_eq_or_imp] at h
    have hsorted := ih h.2
    unfold bySequence at hsorted ⊢
    rw [List.cons_append, List.insertionSort_cons, hsorted, List.insertionSort_cons]
    exact orderedInsert_concat _ _ (Int.le_of_lt h.1)

theorem loadEvents_concat_of_new {records : List RunEvent}
    (h : ∀ known ∈ loadEvents records,
      known.eventId ≠ event.eventId ∧ known.sequence < event.sequence) :
    loadEvents (records ++ [event]) = loadEvents records ++ [event] := by
  have hnew : ∀ known ∈ dedupeEvents records,
      known.eventId ≠ event.eventId ∧ known.sequence < event.sequence :=
    fun known hknown => h known (mem_loadEvents.mpr hknown)
  rw [loadEvents_concat, putEvent_of_new fun known hknown => (hnew known hknown).1,
    bySequence_concat fun known hknown => (hnew known hknown).2]
  rfl

/-- The calls of the only thread of a process, and its restart.  `event` is the
event that `append_run_event` returns. -/
inductive CacheCall where
  | appendRunEvent (draft : EventDraft) (event : RunEvent)
  | appendEvent (runId : String) (given : RunEvent)
  | listRunEvents (runId : String) (after : Int)
  | getMerkleSnapshot (runId : String)
  | restart

variable (config : StoreConfig) (hash : MerkleHash)

/-- The call takes the store from `s` to `t`. -/
def CacheCall.Serves :
    CacheCall → RunStore → RunStore → Prop
  | .appendRunEvent draft event, s, t =>
    Completes (storeStep config hash) (FileStateStore.appendRunEvent hash draft) s event t
  | .appendEvent runId given, s, t =>
    ∃ result, Completes (storeStep config hash)
      (FileStateStore.appendEvent hash runId given) s result t
  | .listRunEvents runId after, s, t =>
    ∃ events, Completes (storeStep config hash)
      (FileStateStore.listRunEvents runId after) s events t
  | .getMerkleSnapshot runId, s, t =>
    ∃ snapshot, Completes (storeStep config hash)
      (FileStateStore.getMerkleSnapshot hash runId) s snapshot t
  | .restart, s, t => t = { s with cache := ∅ }

namespace RunStore

/-- The end of the log that fits into the cache begins above everything before
it. -/
def CacheCut (events : List RunEvent) : Prop :=
  CutsCleanly RunEvent.sequence eventCacheSize events

variable (s : RunStore)

/-- The cut is clean, and the event is new and goes to the end, or a live session's cursor is
moved to it. -/
def CacheFollows (runId : String) (event : RunEvent) : Prop :=
  CacheCut (loadEvents (s.records runId ++ [event])) ∧
    ((∀ known ∈ s.diskEvents runId,
        known.eventId ≠ event.eventId ∧ known.sequence < event.sequence) ∨
      ∃ session, s.getRunSession runId = some session ∧
        session.latestEventSequence ≤ event.sequence)

/-- Every cached tail is the end of its log. -/
def CacheFaithful : Prop :=
  ∀ runId cached, s.cache[runId]? = some cached →
    CoversFrom RunEvent.sequence cached (s.diskEvents runId)

end RunStore

def CacheCall.KeepsCache : CacheCall → RunStore → Prop
  | .appendRunEvent draft event, s => s.CacheFollows draft.runId event
  | .appendEvent runId given, s =>
    given.runId = runId → s.CacheFollows runId (s.stamped hash given)
  | .listRunEvents runId after, s =>
    s.readCache runId after = none → RunStore.CacheCut (s.diskEvents runId)
  | .getMerkleSnapshot runId, s => RunStore.CacheCut (s.diskEvents runId)
  | .restart, _ => True

/-- Any number of calls that meet a condition on the state before them. -/
def CacheRun (allowed : CacheCall → RunStore → Prop) : RunStore → RunStore → Prop :=
  Relation.ReflTransGen fun s t => ∃ call : CacheCall, allowed call s ∧ call.Serves config hash s t

section

variable {config : StoreConfig} {hash : MerkleHash} {s t u : RunStore} {runId : String}

/-- Loading a log that is cut cleanly. -/
theorem RunStore.CacheFaithful.refreshed (h : s.CacheFaithful)
    (hcut : RunStore.CacheCut (s.diskEvents runId)) : (s.refreshed runId).CacheFaithful := by
  intro other cached hcached
  by_cases hother : other = runId
  · subst hother
    simp only [refreshed, storeCache, Table.get_insert_self,
      Option.some.injEq] at hcached
    subst hcached
    exact hcut.coversFrom eventCacheSize_pos
  · simp only [RunStore.refreshed, RunStore.storeCache, Table.get_insert_of_ne _ _ hother]
      at hcached
    exact h other cached hcached

/-- Finding the next sequence leaves the cached tail or loads it. -/
theorem RunStore.nextEventSequence_store (s : RunStore) (runId : String) :
    (s.nextEventSequence runId).2 = s ∨ (s.nextEventSequence runId).2 = s.refreshed runId := by
  unfold nextEventSequence
  split
  · split
    · exact .inl rfl
    · exact .inr rfl
  · exact .inr rfl

variable {event : RunEvent}

/-- Moving the cursor loads the log, unless there is no session or it is further
already. -/
theorem FileStateStore.cache_of_advance
    (h : Completes (storeStep config hash) (advanceSessionEventCursor hash runId event) s () t) :
    (t = s ∧ ∀ session, s.getRunSession runId = some session →
      event.sequence < session.latestEventSequence) ∨
    (t.cache[runId]? = some (RunStore.cacheTail (s.diskEvents runId)) ∧
      ∀ other, other ≠ runId → t.cache[other]? = s.cache[other]?) := by
  obtain ⟨hnone, rfl⟩ | ⟨found, hfound, hlt, rfl⟩ |
    ⟨session, now, stored, v, hget, -, hsave, hv⟩ := advance_completes h
  · exact .inl ⟨rfl, fun session hsession => by simp [hnone] at hsession⟩
  · refine .inl ⟨rfl, fun session hsession => ?_⟩
    obtain rfl := Option.some.inj (hfound.symm.trans hsession)
    exact hlt
  · right
    set moved := advanced hash s session event now
    have hv' : v = ((s.refreshed runId).saveSession config moved).2 := by rw [hsave]
    have hstored : stored.runId = runId := by
      have hplaced : stored = ((s.refreshed runId).saveSession config moved).1 := by rw [hsave]
      rw [hplaced]
      exact (placeSession_runId moved _).trans (RunStore.getRunSession_spec hget).2
    have hcache : v.cache = s.cache.insert runId (RunStore.cacheTail (s.diskEvents runId)) := by
      rw [hv']
      rfl
    have hdisk : v.diskEvents runId = s.diskEvents runId := by
      rw [hv']
      rfl
    rcases hv with rfl | rfl
    · rw [hcache]
      exact ⟨Table.get_insert_self .., fun other hne => Table.get_insert_of_ne _ _ hne⟩
    · simp only [RunStore.refreshed, RunStore.storeCache, hstored, hdisk, hcache]
      refine ⟨Table.get_insert_self .., fun other hne => ?_⟩
      rw [Table.get_insert_of_ne _ _ hne, Table.get_insert_of_ne _ _ hne]

/-- **One append.**  The tail to which the event is appended is the one from
before, or the one just loaded. -/
theorem RunStore.CacheFaithful.append (h : s.CacheFaithful)
    (hfollows : s.CacheFollows runId event) (hlogs : RunStore.Logs runId event s u)
    (hcache : u.cache = s.cache ∨ u.cache = (s.refreshed runId).cache)
    (hadvance : Completes (storeStep config hash)
      (advanceSessionEventCursor hash runId event) (u.cacheEvent runId event) () t) :
    t.CacheFaithful := by
  obtain ⟨hcut, hplace⟩ := hfollows
  have hrecords := records_of_advance hadvance
  have hdisk : t.diskEvents runId = loadEvents (s.records runId ++ [event]) := by
    rw [diskEvents, hrecords]
    exact congrArg loadEvents hlogs.records
  have huother : ∀ other, other ≠ runId → u.cache[other]? = s.cache[other]? := by
    intro other hne
    rcases hcache with heq | heq
    · rw [heq]
    · rw [heq, RunStore.refreshed, RunStore.storeCache, Table.get_insert_of_ne _ _ hne]
  have hcached : (u.cacheEvent runId event).cache[runId]? =
      some (cacheTail ((u.cache[runId]?).getD [] ++ [event])) := Table.get_insert_self ..
  have hcachedOther : ∀ other, other ≠ runId →
      (u.cacheEvent runId event).cache[other]? = s.cache[other]? := fun other hne =>
    (Table.get_insert_of_ne _ _ hne).trans (huother other hne)
  -- the logs and tails of other runs are as they were
  have hothers : (∀ other, other ≠ runId → t.cache[other]? = s.cache[other]?) →
      (∀ cached, t.cache[runId]? = some cached →
        CoversFrom RunEvent.sequence cached (t.diskEvents runId)) → t.CacheFaithful := by
    intro hsame hself other cached hget
    by_cases hother : other = runId
    · exact hother ▸ hself cached (hother ▸ hget)
    · have hdiskOther : t.diskEvents other = s.diskEvents other := by
        rw [diskEvents, hrecords, diskEvents]
        exact congrArg loadEvents (hlogs.others other hother)
      rw [hdiskOther]
      exact h other cached ((hsame other hother).symm.trans hget)
  obtain ⟨rfl, hbehind⟩ | ⟨hloaded, hsame⟩ := cache_of_advance hadvance
  · refine hothers hcachedOther fun cached hget => ?_
    obtain rfl := Option.some.inj (hcached.symm.trans hget)
    -- nothing was loaded, so the event goes to the end
    have hend : ∀ known ∈ s.diskEvents runId,
        known.eventId ≠ event.eventId ∧ known.sequence < event.sequence := by
      rcases hplace with hend | ⟨session, hget, hle⟩
      · exact hend
      · have hlive : (u.cacheEvent runId event).getRunSession runId = some session := by
          rw [getRunSession, show (u.cacheEvent runId event).runs = s.runs from hlogs.runs]
          exact hget
        have hlt := hbehind session hlive
        omega
    have hgrown := loadEvents_concat_of_new hend
    rw [hdisk, hgrown, cacheTail_eq]
    rw [hgrown] at hcut
    rcases hcache with heq | heq
    · rw [heq]
      cases hold : s.cache[runId]? with
      | none => exact coversFrom_concat_nil eventCacheSize_pos fun y hy => (hend y hy).2
      | some old =>
        exact (h runId old hold).concat eventCacheSize_pos (fun y hy => (hend y hy).2) hcut
    · have hold : u.cache[runId]? = some (cacheTail (s.diskEvents runId)) := by
        rw [heq]
        exact Table.get_insert_self ..
      rw [hold, Option.getD_some, cacheTail_eq]
      exact coversFrom_concat_lastOf eventCacheSize_pos hcut
  · refine hothers (fun other hne => (hsame other hne).trans (hcachedOther other hne)) ?_
    intro cached hget
    obtain rfl := Option.some.inj (hloaded.symm.trans hget)
    have hloadedDisk : (u.cacheEvent runId event).diskEvents runId = t.diskEvents runId := by
      rw [diskEvents, diskEvents, hrecords]
    rw [hloadedDisk]
    rw [← hdisk] at hcut
    exact hcut.coversFrom eventCacheSize_pos

theorem RunStore.CacheFaithful.readCache (h : s.CacheFaithful) {after : Int}
    {events : List RunEvent} (hread : s.readCache runId after = some events) :
    events = (s.diskEvents runId).filter fun event => after < event.sequence := by
  unfold RunStore.readCache at hread
  cases hcached : s.cache[runId]? with
  | none => simp [hcached] at hread
  | some cached =>
    have hcovers := h runId cached hcached
    rw [hcached] at hread
    dsimp only at hread
    cases cached with
    | nil =>
      rw [hcovers.nil]
      simpa [cacheCoversAfter] using hread.symm
    | cons first rest =>
      split at hread
      · next hreach =>
        obtain rfl := Option.some.inj hread
        exact hcovers.filter (by simpa [cacheCoversAfter] using hreach)
      · cases hread

theorem CacheCall.Serves.faithful {call : CacheCall} (h : call.Serves config hash s t)
    (hkeeps : call.KeepsCache hash s) (hfaithful : s.CacheFaithful) : t.CacheFaithful := by
  have hnext : ∀ {u : RunStore} {runId : String}, u.cache = (s.nextEventSequence runId).2.cache →
      u.cache = s.cache ∨ u.cache = (s.refreshed runId).cache := by
    intro u runId hcache
    rcases nextEventSequence_store s runId with heq | heq
    · exact .inl (by rw [hcache, heq])
    · exact .inr (by rw [hcache, heq])
  cases call with
  | appendRunEvent draft event =>
    obtain ⟨uuid, now, u, hlog, hadvance⟩ := FileStateStore.appendRunEvent_completes h
    obtain ⟨-, hlogs, hcache⟩ := logNewEvent_spec hlog
    exact hfaithful.append hkeeps hlogs (hnext hcache) hadvance
  | appendEvent runId given =>
    obtain ⟨result, hcall⟩ := h
    obtain ⟨-, rfl⟩ | ⟨rfl, event, u, hlog, -, hadvance⟩ :=
      FileStateStore.appendEvent_completes hcall
    · exact hfaithful
    · obtain ⟨rfl, hlogs, hcache⟩ := logGivenEvent_spec hlog
      refine hfaithful.append (hkeeps rfl) hlogs ?_ hadvance
      split at hcache
      · exact hnext hcache
      · exact .inl hcache
  | listRunEvents runId after =>
    obtain ⟨events, hcall⟩ := h
    obtain ⟨-, rfl⟩ | ⟨hmiss, rfl, -⟩ := FileStateStore.list_completes.mp hcall
    · exact hfaithful
    · exact hfaithful.refreshed (hkeeps hmiss)
  | getMerkleSnapshot runId =>
    obtain ⟨snapshot, hcall⟩ := h
    obtain ⟨-, rfl⟩ := FileStateStore.snapshot_completes.mp hcall
    exact hfaithful.refreshed hkeeps
  | restart =>
    obtain rfl := h
    intro runId cached hcached
    simp at hcached

theorem CacheRun.faithful (h : CacheRun config hash (CacheCall.KeepsCache hash) s t)
    (hfaithful : s.CacheFaithful) : t.CacheFaithful := by
  induction h with
  | refl => exact hfaithful
  | tail _ hstep ih =>
    obtain ⟨call, hkeeps, hserves⟩ := hstep
    exact hserves.faithful hkeeps ih

/-- **Cached reads equal disk reads** from an empty cache on, as long as every call keeps the
cached tails in step. -/
theorem cached_reads_equal_disk (hstart : s.cache = ∅)
    (h : CacheRun config hash (CacheCall.KeepsCache hash) s t) (runId : String) (after : Int)
    (events : List RunEvent) (u : RunStore)
    (hlist : Completes (storeStep config hash) (listRunEvents runId after) t
      events u) :
    events = (t.diskEvents runId).filter fun event => after < event.sequence := by
  have hempty : s.CacheFaithful := by
    intro other cached hcached
    simp [hstart] at hcached
  obtain ⟨hread, -⟩ | ⟨-, -, hloaded⟩ := list_completes.mp hlist
  · exact (h.faithful hempty).readCache hread
  · exact hloaded

end

theorem cached_reads_equal_disk_sample :
    ∃ t, CacheRun ⟨100⟩ plainHash (CacheCall.KeepsCache plainHash) storeWithRun t ∧
      t.diskEvents "run" ≠ [] ∧ ∀ after events u,
        Completes (storeStep ⟨100⟩ plainHash) (FileStateStore.listRunEvents "run" after) t
          events u →
        events = (t.diskEvents "run").filter fun event => after < event.sequence := by
  obtain ⟨event, t, happend⟩ :=
    @exists_appendEvent ⟨100⟩ plainHash (givenEvent "evt_a" 5) storeWithRun
  obtain ⟨-, hrecords⟩ := FileStateStore.records_of_appendEvent happend
  have hkeeps : (CacheCall.appendEvent "run" (givenEvent "evt_a" 5)).KeepsCache plainHash
      storeWithRun := by
    intro _
    have hnone : storeWithRun.records "run" = [] := by simp [records, storeWithRun]
    refine ⟨?_, .inl ?_⟩
    · rw [hnone, List.nil_append, loadEvents_singleton]
      intro x hx
      simp [eventCacheSize] at hx
    · intro known hknown
      cases hknown
  have hrun : CacheRun ⟨100⟩ plainHash (CacheCall.KeepsCache plainHash) storeWithRun t :=
    .single ⟨.appendEvent "run" (givenEvent "evt_a" 5), hkeeps, _, happend⟩
  refine ⟨t, hrun, ?_, fun after events u =>
    cached_reads_equal_disk rfl hrun "run" after events u⟩
  have hmem := self_mem_loadEvents (storeWithRun.records "run") event
  rw [diskEvents, show t.records "run" = _ from hrecords]
  exact List.ne_nil_of_mem hmem

theorem cache_of_sessionless_append {config : StoreConfig} {hash : MerkleHash} {s t : RunStore}
    {given event : RunEvent} (hruns : s.runs = []) (hpos : 0 < given.sequence)
    (h : Completes (storeStep config hash) (FileStateStore.appendEvent hash given.runId given) s
      (.ok event) t) :
    t.runs = [] ∧ t.cache[given.runId]? =
      some (cacheTail ((s.cache[given.runId]?).getD [] ++ [event])) := by
  obtain ⟨hne, -⟩ | ⟨-, stamped, u, hlog, hresult, hadvance⟩ :=
    appendEvent_completes h
  · exact absurd rfl hne
  · cases hresult
    obtain ⟨-, hlogs, hcache⟩ := logGivenEvent_spec hlog
    have huruns : (u.cacheEvent given.runId event).runs = [] := hlogs.runs.trans hruns
    have hnone : (u.cacheEvent given.runId event).getRunSession given.runId = none := by
      rw [RunStore.getRunSession, huruns]
      rfl
    obtain ⟨-, rfl⟩ | ⟨_, hfound, -⟩ | ⟨_, _, _, _, hfound, -⟩ :=
      advance_completes hadvance
    · refine ⟨huruns, ?_⟩
      rw [if_neg (by omega)] at hcache
      rw [← hcache]
      exact Table.get_insert_self ..
    · rw [hnone] at hfound
      cases hfound
    · rw [hnone] at hfound
      cases hfound

/-- After a restart, an event below the ones on disk is the only one cached, and
the cache answers as if there were no others. -/
theorem restarted_cache_hides_events :
    ¬ ∀ (config : StoreConfig) (hash : MerkleHash) (s t : RunStore), s.cache = ∅ →
      CacheRun config hash (fun _ _ => True) s t → ∀ runId after events u,
        Completes (storeStep config hash) (FileStateStore.listRunEvents runId after) t events u →
        events = (t.diskEvents runId).filter fun event => after < event.sequence := by
  intro hclaim
  obtain ⟨first, s, hfirst⟩ := @exists_appendEvent ⟨100⟩ plainHash (givenEvent "evt_a" 5) {}
  set restarted : RunStore := { s with cache := ∅ }
  obtain ⟨second, t, hsecond⟩ :=
    @exists_appendEvent ⟨100⟩ plainHash (givenEvent "evt_b" 3) restarted
  have hrun : CacheRun ⟨100⟩ plainHash (fun _ _ => True) {} t :=
    ((Relation.ReflTransGen.single
      ⟨.appendEvent "run" (givenEvent "evt_a" 5), trivial, _, hfirst⟩).tail
      ⟨.restart, trivial, rfl⟩).tail
      ⟨.appendEvent "run" (givenEvent "evt_b" 3), trivial, _, hsecond⟩
  obtain ⟨hfirstEvent, hfirstRecords⟩ := FileStateStore.records_of_appendEvent hfirst
  obtain ⟨hsecondEvent, hsecondRecords⟩ := FileStateStore.records_of_appendEvent hsecond
  obtain ⟨hruns, -⟩ := cache_of_sessionless_append rfl (by decide) hfirst
  obtain ⟨-, hcache⟩ := @cache_of_sessionless_append _ _ restarted _ _ _ hruns (by decide) hsecond
  have hcached : t.cache["run"]? = some [second] := by
    have hnone : restarted.cache["run"]? = none := Table.get_empty "run"
    rw [show t.cache["run"]? = _ from hcache, show (givenEvent "evt_b" 3).runId = "run" from rfl,
      hnone, Option.getD_none, List.nil_append, cacheTail_eq,
      lastOf_of_length_le (show [second].length ≤ eventCacheSize from eventCacheSize_pos)]
  have hrecords : t.records "run" = [first, second] := by
    rw [show t.records "run" = _ from hsecondRecords]
    show s.records "run" ++ [second] = _
    rw [show s.records "run" = _ from hfirstRecords]
    rfl
  replace hfirstEvent : first = (givenEvent "evt_a" 5).withLeafHash plainHash := hfirstEvent
  replace hsecondEvent : second = (givenEvent "evt_b" 3).withLeafHash plainHash := hsecondEvent
  have hread : t.readCache "run" 2 = some [second] := by
    rw [RunStore.readCache, hcached, hsecondEvent]
    rfl
  have hlisted := hclaim ⟨100⟩ plainHash {} t rfl hrun "run" 2 [second] t
    (FileStateStore.list_completes.mpr (.inl ⟨hread, rfl⟩))
  rw [diskEvents, hrecords, hfirstEvent, hsecondEvent] at hlisted
  exact absurd (congrArg List.length hlisted) (by decide +kernel)

end OrbitalMesh
