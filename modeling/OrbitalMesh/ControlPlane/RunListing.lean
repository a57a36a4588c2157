import OrbitalMesh.ControlPlane.SessionFiles

/-!
# Listing runs by status, stage and goal

The file store takes the newest runs up to the limit and filters these; the
database filters first and then takes the newest up to the limit.
`filtered_listing_agrees_iff` says for every set of stored runs, and every
filter, when the two answers are the same.
-/

namespace OrbitalMesh

open Atomic

structure RunFilters where
  limit : Int := 50
  status : Option String := none
  stage : Option String := none
  goalId : Option String := none

def RunFilters.admits (filters : RunFilters) (session : RunSession) : Bool :=
  filters.status.all (fun status => session.status == status) &&
    filters.stage.all (fun stage => session.stage == stage) &&
    filters.goalId.all (fun goalId => session.goalId == some goalId)

/-- `if wanted is not None: sessions = [... if session.field == wanted]`. -/
def keepWhere (wanted : Option String) (field : RunSession → Option String)
    (sessions : List RunSession) : List RunSession :=
  match wanted with
  | some value => sessions.filter fun session => field session == some value
  | none => sessions

def RunStore.listRuns (s : RunStore) (filters : RunFilters) : List RunSession :=
  let sessions := s.listRunSessions (max filters.limit 1)
  let sessions := keepWhere filters.status (fun session => some session.status) sessions
  let sessions := keepWhere filters.stage (fun session => some session.stage) sessions
  let sessions := keepWhere filters.goalId RunSession.goalId sessions
  sliceTo sessions filters.limit

namespace PostgresStateStore

/-- A row of `runs`, joined with the row of `run_snapshots` of the same run. -/
structure RunRow where
  runId : String
  goalId : Option String
  scenarioKey : Option String
  stage : String
  status : String
  createdAt : Instant
  snapshot : RunSession

/-- `_save_run_session_tx`: the creation time of a known run is kept, and a text that `instant`
cannot read fails the statement. -/
def saveRunSession (instant : String → Option Instant) (session : RunSession)
    (rows : List RunRow) : Except PyError (List RunRow) :=
  match instant session.createdAt with
  | none => .error ⟨.exception, "invalid input syntax for type timestamp with time zone"⟩
  | some createdAt =>
    match rows.find? (fun row => row.runId == session.runId) with
    | none =>
      .ok (rows ++ [{
        runId := session.runId
        goalId := session.goalId
        scenarioKey := session.scenarioKey
        stage := session.stage
        status := session.status
        createdAt := createdAt
        snapshot := session }])
    | some current =>
      let session := mergeSessionSnapshot session current.snapshot
      .ok (rows.map fun row =>
        if row.runId = session.runId then
          { row with
            goalId := session.goalId
            scenarioKey := session.scenarioKey
            stage := session.stage
            status := session.status
            snapshot := session }
        else row)

/-- The `WHERE` clause of `list_runs`. -/
def selects (filters : RunFilters) (row : RunRow) : Bool :=
  filters.status.all (fun status => row.status == status) &&
    filters.stage.all (fun stage => row.stage == stage) &&
    filters.goalId.all (fun goalId => row.goalId == some goalId)

/-- `list_runs`: `WHERE ... ORDER BY created_at DESC LIMIT ...`.  A negative
limit is an error of the database. -/
def listRuns (filters : RunFilters) (rows : List RunRow) : Except PyError (List RunSession) :=
  if filters.limit < 0 then .error ⟨.exception, "LIMIT must not be negative"⟩
  else
    let selected := rows.filter (selects filters)
    let ordered := selected.insertionSort fun a b => b.createdAt ≤ a.createdAt
    .ok ((ordered.take filters.limit.toNat).map RunRow.snapshot)

end PostgresStateStore

theorem keepWhere_eq_filter (wanted : Option String) (field : RunSession → Option String)
    (sessions : List RunSession) :
    keepWhere wanted field sessions =
      sessions.filter fun session => wanted.all fun value => field session == some value := by
  cases wanted with
  | none | some value => simp [keepWhere]

theorem RunStore.listRuns_eq (s : RunStore) (filters : RunFilters) :
    s.listRuns filters =
      sliceTo ((s.listRunSessions (max filters.limit 1)).filter filters.admits) filters.limit := by
  simp only [RunStore.listRuns, keepWhere_eq_filter, List.filter_filter]
  congr 1
  apply List.filter_congr
  intro session _
  simp only [RunFilters.admits, Option.some_beq_some]
  cases filters.goalId.all (fun value => session.goalId == some value) <;>
    cases filters.stage.all (fun value => session.stage == value) <;> simp

/-- Filtering the first `n` entries gives the first `n` of the filtered list
exactly when no entry after them is kept, or all of them are. -/
theorem filter_take_eq_take_filter_iff {α : Type} (keep : α → Bool) (n : Nat) (xs : List α) :
    (xs.take n).filter keep = (xs.filter keep).take n ↔
      (∀ x ∈ xs.drop n, keep x = false) ∨ (∀ x ∈ xs.take n, keep x = true) := by
  have hsplit : xs.filter keep = (xs.take n).filter keep ++ (xs.drop n).filter keep := by
    rw [← List.filter_append, List.take_append_drop]
  have hshort : ((xs.take n).filter keep).length ≤ n :=
    Nat.le_trans (List.length_filter_le _ _) (by simp)
  rw [hsplit, List.take_append, List.take_of_length_le hshort, List.self_eq_append_right,
    List.take_eq_nil_iff]
  constructor
  · rintro (hfull | hnone)
    · right
      have hlen : ((xs.take n).filter keep).length = (xs.take n).length := by
        have h₁ := List.length_filter_le keep (xs.take n)
        have h₂ : (xs.take n).length ≤ n := by simp
        omega
      exact List.length_filter_eq_length_iff.mp hlen
    · left
      intro x hx
      simpa using List.filter_eq_nil_iff.mp hnone x hx
  · rintro (hnone | hall)
    · right
      exact List.filter_eq_nil_iff.mpr fun x hx => by simp [hnone x hx]
    · rw [List.filter_eq_self.mpr hall]
      by_cases hlen : n ≤ xs.length
      · left
        simp [hlen]
      · right
        rw [List.drop_of_length_le (by omega)]
        rfl

section

/-- The order of `newestFirst`. -/
def NotOlder (a b : RunSession) : Prop := Json.keyLe b.createdAt a.createdAt = true

instance : DecidableRel NotOlder := fun _ _ => inferInstanceAs (Decidable (_ = true))

instance : Std.Total NotOlder :=
  ⟨fun a b => by
    by_cases h : Json.keyLe b.createdAt a.createdAt = true
    · exact .inl h
    · exact .inr (Json.keyLe_total h)⟩

instance : IsTrans RunSession NotOlder := ⟨fun _ _ _ hab hbc => Json.keyLe_trans hbc hab⟩

theorem pairwise_newestFirst (sessions : List RunSession) :
    (newestFirst sessions).Pairwise NotOlder :=
  List.pairwise_insertionSort NotOlder sessions

variable {left right sessions : List RunSession}

theorem eq_of_perm_of_sorted (hperm : left.Perm right)
    (htimes : (left.map RunSession.createdAt).Nodup) (hleft : left.Pairwise NotOlder)
    (hright : right.Pairwise NotOlder) : left = right := by
  refine List.Perm.eq_of_pairwise ?_ hleft hright hperm
  intro a b ha hb hab hba
  exact List.inj_on_of_nodup_map htimes ha (hperm.mem_iff.mpr hb) (Json.keyLe_antisymm hba hab)

theorem newestFirst_eq_of_perm (hperm : left.Perm right)
    (htimes : (left.map RunSession.createdAt).Nodup) : newestFirst left = newestFirst right := by
  have hsorted : (newestFirst left).Perm (newestFirst right) :=
    (perm_newestFirst left).trans (hperm.trans (perm_newestFirst right).symm)
  have htimes' : ((newestFirst left).map RunSession.createdAt).Nodup :=
    ((perm_newestFirst left).map _).nodup_iff.mpr htimes
  exact eq_of_perm_of_sorted hsorted htimes' (pairwise_newestFirst left)
    (pairwise_newestFirst right)

theorem newestFirst_of_sorted (h : sessions.Pairwise NotOlder) : newestFirst sessions = sessions :=
  List.Pairwise.insertionSort_eq h

theorem filter_newestFirst (keep : RunSession → Bool)
    (htimes : (sessions.map RunSession.createdAt).Nodup) :
    (newestFirst sessions).filter keep = newestFirst (sessions.filter keep) := by
  have hsub : ((newestFirst sessions).filter keep).Sublist (newestFirst sessions) :=
    List.filter_sublist
  have htimes' : ((newestFirst sessions).map RunSession.createdAt).Nodup :=
    ((perm_newestFirst sessions).map _).nodup_iff.mpr htimes
  refine eq_of_perm_of_sorted ?_ ((hsub.map _).nodup htimes')
    ((pairwise_newestFirst sessions).sublist hsub) (pairwise_newestFirst _)
  exact ((perm_newestFirst sessions).filter keep).trans (perm_newestFirst _).symm

end

/-- A file store and a database after the same saves.  A run keeps its creation
time from one save to the next. -/
inductive SavedInBoth (config : StoreConfig) (hash : MerkleHash)
    (instant : String → Option Instant) : RunStore → List PostgresStateStore.RunRow → Prop
  | start : SavedInBoth config hash instant {} []
  | save {s t : RunStore} {rows rows' : List PostgresStateStore.RunRow}
      {session stored : RunSession} (before : SavedInBoth config hash instant s rows)
      (keeps : ∀ known ∈ s.stored, known.runId = session.runId →
        known.createdAt = session.createdAt)
      (file : Completes (storeStep config hash) (FileStateStore.saveRunSession session) s stored t)
      (database : PostgresStateStore.saveRunSession instant session rows = .ok rows') :
      SavedInBoth config hash instant t rows'

/-- The columns of a row are those of its snapshot. -/
structure PostgresStateStore.RunRow.Shows (instant : String → Option Instant)
    (row : PostgresStateStore.RunRow) : Prop where
  runId : row.runId = row.snapshot.runId
  goalId : row.goalId = row.snapshot.goalId
  stage : row.stage = row.snapshot.stage
  status : row.status = row.snapshot.status
  createdAt : instant row.snapshot.createdAt = some row.createdAt

/-- The live file holds the newest of the stored runs. -/
structure RunStore.LiveNewest (config : StoreConfig) (s : RunStore) : Prop where
  sorted : s.runs.Pairwise NotOlder
  above : ∀ live ∈ s.runs, ∀ old ∈ s.archive, NotOlder live old
  bounded : s.runs.length ≤ config.maxRecords
  full : s.archive = [] ∨ s.runs.length = config.maxRecords

section

variable {config : StoreConfig} {s : RunStore} {session : RunSession}

theorem RunStore.LiveNewest.saveNew (h : s.LiveNewest config)
    (hnodup : ((session :: s.runs).map RunSession.runId).Nodup)
    (hplace : placeSession session s.runs = (session, session :: s.runs)) :
    (s.saveSession config session).2.LiveNewest config := by
  set ordered := newestFirst (session :: s.runs)
  have hsorted : ordered.Pairwise NotOlder := pairwise_newestFirst _
  have hlen : ordered.length = s.runs.length + 1 := length_newestFirst _
  have hdistinct : ordered.Nodup :=
    (perm_newestFirst _).nodup_iff.mpr (List.Nodup.of_map _ hnodup)
  have hruns : (s.saveSession config session).2.runs = ordered.take config.maxRecords := by
    show (newestFirst (placeSession session s.runs).2).take config.maxRecords = _
    rw [hplace]
  have harchive : (s.saveSession config session).2.archive =
      s.archive ++ ordered.drop config.maxRecords := by
    show s.archive ++ (newestFirst (placeSession session s.runs).2).drop config.maxRecords = _
    rw [hplace]
  have hsplit := hsorted
  rw [← List.take_append_drop config.maxRecords ordered, List.pairwise_append] at hsplit
  constructor
  · rw [hruns]
    exact hsplit.1
  · rw [hruns, harchive]
    intro live hlive old hmemOld
    rcases List.mem_append.mp hmemOld with hold | hold
    · rcases List.mem_cons.mp (mem_newestFirst.mp (List.mem_of_mem_take hlive)) with rfl | hmem
      · -- the live file was full, so that a run of it is cut off now
        have hfull : s.runs.length = config.maxRecords :=
          h.full.resolve_left (List.ne_nil_of_mem hold)
        have hcutLen : 0 < (ordered.drop config.maxRecords).length := by
          rw [List.length_drop]
          omega
        obtain ⟨cut, hcut⟩ := List.exists_mem_of_length_pos hcutLen
        have hne : cut ≠ live := fun heq =>
          List.disjoint_take_drop hdistinct (Nat.le_refl _) hlive (heq ▸ hcut)
        have hcutRuns : cut ∈ s.runs :=
          (List.mem_cons.mp (mem_newestFirst.mp (List.mem_of_mem_drop hcut))).resolve_left hne
        exact trans_of NotOlder (hsplit.2.2 _ hlive cut hcut) (h.above cut hcutRuns old hold)
      · exact h.above live hmem old hold
    · exact hsplit.2.2 live hlive old hold
  · rw [hruns]
    simp
  · rw [hruns, harchive, List.length_take]
    by_cases hfits : ordered.length ≤ config.maxRecords
    · left
      rw [List.drop_of_length_le hfits, List.append_nil]
      exact h.full.resolve_right (by omega)
    · right
      omega

theorem RunStore.LiveNewest.saveKnown (h : s.LiveNewest config) {stored : RunSession}
    {before after : List RunSession} {existing : RunSession}
    (hruns : s.runs = before ++ existing :: after)
    (hplace : placeSession session s.runs = (stored, before ++ stored :: after))
    (htime : stored.createdAt = existing.createdAt) :
    (s.saveSession config session).2.LiveNewest config ∧
      (s.saveSession config session).2.runs = before ++ stored :: after ∧
      (s.saveSession config session).2.archive = s.archive := by
  -- the order only looks at the creation time
  have hpair : ∀ live : RunSession, (NotOlder live stored ↔ NotOlder live existing) ∧
      (NotOlder stored live ↔ NotOlder existing live) := by
    intro live
    simp [NotOlder, htime]
  have hsorted : (before ++ stored :: after).Pairwise NotOlder := by
    have hold := h.sorted
    rw [hruns] at hold
    simpa only [List.pairwise_append, List.pairwise_cons, List.mem_cons, forall_eq_or_imp,
      (hpair _).1, (hpair _).2] using hold
  have hlen : (before ++ stored :: after).length ≤ config.maxRecords := by
    have hold := h.bounded
    rw [hruns] at hold
    simpa using hold
  have hlive : (s.saveSession config session).2.runs = before ++ stored :: after := by
    show (newestFirst (placeSession session s.runs).2).take config.maxRecords = _
    rw [hplace, newestFirst_of_sorted hsorted, List.take_of_length_le hlen]
  have harchive : (s.saveSession config session).2.archive = s.archive := by
    show s.archive ++ (newestFirst (placeSession session s.runs).2).drop config.maxRecords = _
    rw [hplace, newestFirst_of_sorted hsorted, List.drop_of_length_le hlen, List.append_nil]
  refine ⟨⟨hlive ▸ hsorted, ?_, hlive ▸ hlen, ?_⟩, hlive, harchive⟩
  · rw [hlive, harchive]
    have hold := h.above
    rw [hruns] at hold
    intro live hmem old hmem'
    simp only [List.mem_append, List.mem_cons] at hmem hold
    rcases hmem with hmem | rfl | hmem
    · exact hold live (.inl hmem) old hmem'
    · exact (hpair old).2.mpr (hold existing (.inr (.inl rfl)) old hmem')
    · exact hold live (.inr (.inr hmem)) old hmem'
  · rw [hlive, harchive]
    have hold := h.full
    rw [hruns] at hold
    simpa using hold

end

section

variable {config : StoreConfig} {hash : MerkleHash} {instant : String → Option Instant}
variable {s t : RunStore} {rows rows' : List PostgresStateStore.RunRow} {session : RunSession}

theorem PostgresStateStore.saveRunSession_new (hnew : ∀ row ∈ rows, row.runId ≠ session.runId)
    (h : saveRunSession instant session rows = .ok rows') :
    ∃ row : RunRow, rows' = rows ++ [row] ∧ row.Shows instant ∧ row.snapshot = session := by
  have hfind : rows.find? (fun row => row.runId == session.runId) = none :=
    List.find?_eq_none.mpr fun row hrow => by simpa using hnew row hrow
  unfold saveRunSession at h
  cases htime : instant session.createdAt with
  | none => simp [htime] at h
  | some createdAt =>
    simp only [htime, hfind, Except.ok.injEq] at h
    exact ⟨_, h.symm, ⟨rfl, rfl, rfl, rfl, htime⟩, rfl⟩

theorem PostgresStateStore.saveRunSession_known {row : RunRow} {before after : List RunRow}
    (hrows : rows = before ++ row :: after) (hnodup : (rows.map RunRow.runId).Nodup)
    (hshows : row.Shows instant) (hid : row.runId = session.runId)
    (htime : row.snapshot.createdAt = session.createdAt)
    (h : saveRunSession instant session rows = .ok rows') :
    ∃ row' : RunRow, rows' = before ++ row' :: after ∧ row'.Shows instant ∧
      row'.snapshot = mergeSessionSnapshot session row.snapshot := by
  subst hrows
  simp only [List.map_append, List.map_cons, List.nodup_append, List.nodup_cons, List.mem_map,
    List.mem_cons, not_exists, not_and] at hnodup
  obtain ⟨-, ⟨hafter, -⟩, hbefore⟩ := hnodup
  have hother : ∀ other ∈ before, other.runId ≠ session.runId := fun other hother heq =>
    hbefore _ ⟨other, hother, rfl⟩ _ (.inl rfl) (heq.trans hid.symm)
  have hother' : ∀ other ∈ after, other.runId ≠ session.runId := fun other hother heq =>
    hafter other hother (heq.trans hid.symm)
  have hfind : (before ++ row :: after).find? (fun row => row.runId == session.runId) =
      some row := by
    rw [List.find?_append,
      List.find?_eq_none.mpr fun other hmem => by simpa using hother other hmem]
    simp [hid]
  unfold saveRunSession at h
  cases hread : instant session.createdAt with
  | none => simp [hread] at h
  | some createdAt =>
    simp only [hread, hfind, Except.ok.injEq, mergeSessionSnapshot_runId, List.map_append,
      List.map_cons, if_pos hid] at h
    have hkeep : ∀ {others : List RunRow}, (∀ other ∈ others, other.runId ≠ session.runId) →
        others.map (fun other =>
          if other.runId = session.runId then
            { other with
              goalId := (mergeSessionSnapshot session row.snapshot).goalId
              scenarioKey := (mergeSessionSnapshot session row.snapshot).scenarioKey
              stage := (mergeSessionSnapshot session row.snapshot).stage
              status := (mergeSessionSnapshot session row.snapshot).status
              snapshot := mergeSessionSnapshot session row.snapshot }
          else other) = others := by
      intro others hne
      refine (List.map_congr_left fun other hmem => if_neg (hne other hmem)).trans ?_
      exact List.map_id' others
    rw [hkeep hother, hkeep hother'] at h
    refine ⟨_, h.symm, ⟨?_, rfl, rfl, rfl, ?_⟩, rfl⟩
    · exact hid.trans (mergeSessionSnapshot_runId _ _).symm
    · rw [mergeSessionSnapshot_createdAt, ← htime]
      exact hshows.createdAt

theorem RunStore.nodup_before_save
    (h : ((s.saveSession config session).2.stored.map RunSession.runId).Nodup) :
    (s.stored.map RunSession.runId).Nodup := by
  have hperm := (RunStore.stored_saveSession config session s).map RunSession.runId
  have hplaced := hperm.nodup_iff.mp h
  obtain ⟨before, existing, after, hruns, hid, heq⟩ | ⟨-, heq⟩ := placeSession_cases session s.runs
  · rw [heq] at hplaced
    rw [RunStore.stored, hruns]
    simpa [hid] using hplaced
  · rw [heq] at hplaced
    simp only [List.cons_append, List.map_cons, List.nodup_cons] at hplaced
    exact hplaced.2

/-- **The same saves store the same runs** as long as no run is stored twice; the newest are in
the live file. -/
theorem SavedInBoth.alike (h : SavedInBoth config hash instant t rows)
    (hids : (t.stored.map RunSession.runId).Nodup) :
    (rows.map PostgresStateStore.RunRow.snapshot).Perm t.stored ∧
      (∀ row ∈ rows, row.Shows instant) ∧ t.LiveNewest config := by
  induction h with
  | start => exact ⟨.refl _, by simp, ⟨.nil, by simp, by simp, .inl rfl⟩⟩
  | @save s t rows rows' session stored _ keeps file database ih =>
    obtain ⟨rfl, htruns, htarchive⟩ := save_sessions file
    have hsame : t.stored = (s.saveSession config session).2.stored := by
      rw [RunStore.stored, htruns, htarchive, RunStore.stored]
    rw [hsame] at hids ⊢
    have hbefore := RunStore.nodup_before_save hids
    obtain ⟨hperm, hshows, hlive⟩ := ih hbefore
    have hstored := RunStore.stored_saveSession config session s
    have hlift : ∀ {u : RunStore}, t.runs = u.runs → t.archive = u.archive →
        u.LiveNewest config → t.LiveNewest config := by
      intro u hr ha hu
      exact ⟨hr ▸ hu.sorted, by rw [hr, ha]; exact hu.above, hr ▸ hu.bounded,
        by rw [hr, ha]; exact hu.full⟩
    have hrowIds : rows.map PostgresStateStore.RunRow.runId =
        (rows.map PostgresStateStore.RunRow.snapshot).map RunSession.runId := by
      rw [List.map_map]
      exact List.map_congr_left fun row hrow => (hshows row hrow).runId
    have hrowNodup : (rows.map PostgresStateStore.RunRow.runId).Nodup := by
      rw [hrowIds]
      exact (hperm.map _).nodup_iff.mpr hbefore
    obtain ⟨before, existing, after, hruns, hid, heq⟩ | ⟨-, heq⟩ :=
      placeSession_cases session s.runs
    · -- the run is live: both stores merge into the same snapshot
      have hexisting : existing ∈ s.stored := by simp [RunStore.stored, hruns]
      have htime := keeps existing hexisting hid
      obtain ⟨row, hrow, hsnap⟩ := List.mem_map.mp (hperm.mem_iff.mpr hexisting)
      obtain ⟨rowsBefore, rowsAfter, hrows⟩ := List.append_of_mem hrow
      obtain ⟨row', rfl, hshows', hsnap'⟩ := PostgresStateStore.saveRunSession_known hrows
        hrowNodup (hshows row hrow) ((hshows row hrow).runId.trans (hsnap ▸ hid))
        (by rw [hsnap, htime]) database
      obtain ⟨hnewest, hruns', harchive'⟩ := hlive.saveKnown hruns heq
        (by rw [mergeSessionSnapshot_createdAt, htime])
      refine ⟨?_, ?_, hlift htruns htarchive hnewest⟩
      · have hrest : ((rowsBefore ++ rowsAfter).map PostgresStateStore.RunRow.snapshot).Perm
            (before ++ after ++ s.archive) := by
          have hcons : (existing ::
              (rowsBefore ++ rowsAfter).map PostgresStateStore.RunRow.snapshot).Perm
              (existing :: (before ++ after ++ s.archive)) := by
            rw [hrows, RunStore.stored, hruns] at hperm
            simp only [List.map_append, List.map_cons, hsnap, List.append_assoc,
              List.cons_append] at hperm ⊢
            exact List.perm_middle.symm.trans (hperm.trans List.perm_middle)
          exact hcons.cons_inv
        rw [RunStore.stored, hruns', harchive']
        simp only [List.map_append, List.map_cons, hsnap', hsnap, List.append_assoc,
          List.cons_append] at hrest ⊢
        exact List.perm_middle.trans ((hrest.cons _).trans List.perm_middle.symm)
      · intro other hother
        rcases List.mem_append.mp hother with hmem | hmem
        · exact hshows other (hrows ▸ List.mem_append_left _ hmem)
        · rcases List.mem_cons.mp hmem with rfl | hmem
          · exact hshows'
          · exact hshows other (hrows ▸ List.mem_append_right _ (List.mem_cons_of_mem _ hmem))
    · -- the run is new to the file store, hence to the database
      have hplaced := (hstored.map RunSession.runId).nodup_iff.mp hids
      rw [heq] at hstored hplaced
      have hnew : ∀ row ∈ rows, row.runId ≠ session.runId := by
        intro row hrow hsameId
        have hmem : row.snapshot ∈ s.stored :=
          hperm.mem_iff.mp (List.mem_map_of_mem hrow)
        simp only [List.cons_append, List.map_cons, List.nodup_cons, List.mem_map, not_exists,
          not_and] at hplaced
        exact hplaced.1 row.snapshot hmem ((hshows row hrow).runId ▸ hsameId)
      obtain ⟨row, rfl, hshow, hsnap⟩ :=
        PostgresStateStore.saveRunSession_new hnew database
      have hnodup : ((session :: s.runs).map RunSession.runId).Nodup := by
        rw [List.map_append, List.nodup_append] at hplaced
        exact hplaced.1
      refine ⟨?_, ?_, hlift htruns htarchive (hlive.saveNew hnodup heq)⟩
      · simp only [List.map_append, List.map_cons, List.map_nil, hsnap]
        refine List.Perm.trans ?_ hstored.symm
        exact List.perm_append_comm.trans (hperm.cons session)
      · intro other hother
        rcases List.mem_append.mp hother with hmem | hmem
        · exact hshows other hmem
        · exact List.mem_singleton.mp hmem ▸ hshow

theorem RunStore.LiveNewest.listRunSessions (h : t.LiveNewest config)
    (hids : (t.stored.map RunSession.runId).Nodup)
    (htimes : (t.stored.map RunSession.createdAt).Nodup) {limit : Int} (hlimit : 0 ≤ limit) :
    t.listRunSessions limit = (newestFirst t.stored).take limit.toNat := by
  simp only [RunStore.listRunSessions, sliceTo, if_pos hlimit]
  split
  · have hfirst : firstOfEachRun [] (t.runs ++ t.archive) = t.stored :=
      firstOfEachRun_of_nodup hids (by simp)
    rw [hfirst]
  · next hlong =>
    rw [RunStore.stored, List.map_append, List.nodup_append] at hids
    have hfirst : firstOfEachRun [] t.runs = t.runs :=
      firstOfEachRun_of_nodup hids.1 (by simp)
    have hordered : (t.runs ++ newestFirst t.archive).Pairwise NotOlder := by
      refine List.pairwise_append.mpr ⟨h.sorted, pairwise_newestFirst _, ?_⟩
      intro live hlive old hold
      exact h.above live hlive old (mem_newestFirst.mp hold)
    have hall : newestFirst t.stored = t.runs ++ newestFirst t.archive := by
      rw [← newestFirst_of_sorted hordered]
      exact newestFirst_eq_of_perm ((perm_newestFirst t.archive).symm.append_left _) htimes
    rw [hfirst, newestFirst_of_sorted h.sorted, hall,
      List.take_append_of_le_length (by omega)]

theorem PostgresStateStore.listRuns_eq {sessions : List RunSession} {filters : RunFilters}
    (hperm : (rows.map RunRow.snapshot).Perm sessions) (hshows : ∀ row ∈ rows, row.Shows instant)
    (htimes : (sessions.map RunSession.createdAt).Nodup)
    (horder : ∀ a ∈ sessions, ∀ b ∈ sessions, ∀ x y, instant a.createdAt = some x →
      instant b.createdAt = some y → (x ≤ y ↔ Json.keyLe a.createdAt b.createdAt = true))
    (hlimit : 0 ≤ filters.limit) :
    listRuns filters rows =
      .ok (((newestFirst sessions).filter filters.admits).take filters.limit.toNat) := by
  have hmem : ∀ row ∈ rows, row.snapshot ∈ sessions := fun row hrow =>
    hperm.mem_iff.mp (List.mem_map_of_mem hrow)
  have hselects : ∀ row ∈ rows, selects filters row = filters.admits row.snapshot := by
    intro row hrow
    obtain ⟨-, hgoal, hstage, hstatus, -⟩ := hshows row hrow
    simp only [selects, RunFilters.admits, hgoal, hstage, hstatus]
  have hsort : ((rows.filter (selects filters)).insertionSort
      fun a b => b.createdAt ≤ a.createdAt).map RunRow.snapshot =
        newestFirst ((rows.filter (selects filters)).map RunRow.snapshot) := by
    refine List.map_insertionSort _ NotOlder _ _ ?_
    intro a ha b hb
    have hrowA := List.mem_of_mem_filter ha
    have hrowB := List.mem_of_mem_filter hb
    exact horder _ (hmem b hrowB) _ (hmem a hrowA) _ _ (hshows b hrowB).createdAt
      (hshows a hrowA).createdAt
  have hfilter : (rows.filter (selects filters)).map RunRow.snapshot =
      (rows.map RunRow.snapshot).filter filters.admits := by
    rw [List.filter_map]
    exact congrArg _ (List.filter_congr hselects)
  have hkept : (((rows.map RunRow.snapshot).filter filters.admits).map
      RunSession.createdAt).Nodup := by
    refine ((List.filter_sublist.map _).nodup ?_)
    exact (hperm.map _).nodup_iff.mpr htimes
  simp only [listRuns, if_neg (Int.not_lt.mpr hlimit), List.map_take, hsort, hfilter]
  rw [newestFirst_eq_of_perm (hperm.filter _) hkept, filter_newestFirst _ htimes]

/-- **The two stores list the same runs** exactly when the limit is not negative and the filters
pass the newest runs or none after them. -/
theorem filtered_listing_agrees_iff (h : SavedInBoth config hash instant t rows)
    (hids : (t.stored.map RunSession.runId).Nodup)
    (htimes : (t.stored.map RunSession.createdAt).Nodup)
    (horder : ∀ a ∈ t.stored, ∀ b ∈ t.stored, ∀ x y, instant a.createdAt = some x →
      instant b.createdAt = some y → (x ≤ y ↔ Json.keyLe a.createdAt b.createdAt = true))
    (filters : RunFilters) :
    PostgresStateStore.listRuns filters rows = .ok (t.listRuns filters) ↔
      0 ≤ filters.limit ∧
        ((∀ session ∈ (newestFirst t.stored).drop filters.limit.toNat,
            filters.admits session = false) ∨
          (∀ session ∈ (newestFirst t.stored).take filters.limit.toNat,
            filters.admits session = true)) := by
  obtain ⟨hperm, hshows, hlive⟩ := h.alike hids
  by_cases hlimit : 0 ≤ filters.limit
  · have hfile : t.listRuns filters =
        ((newestFirst t.stored).take filters.limit.toNat).filter filters.admits := by
      rw [RunStore.listRuns_eq, hlive.listRunSessions hids htimes (by omega), sliceTo,
        if_pos hlimit]
      by_cases hzero : filters.limit = 0
      · simp [hzero]
      · have hone : max filters.limit 1 = filters.limit := by omega
        rw [hone]
        refine List.take_of_length_le (Nat.le_trans (List.length_filter_le _ _) ?_)
        simp
    rw [PostgresStateStore.listRuns_eq hperm hshows htimes horder hlimit, hfile, Except.ok.injEq,
      eq_comm, filter_take_eq_take_filter_iff]
    simp [hlimit]
  · have herror : PostgresStateStore.listRuns filters rows =
        .error ⟨.exception, "LIMIT must not be negative"⟩ := by
      simp [PostgresStateStore.listRuns, Int.not_le.mp hlimit]
    simp [herror, hlimit]

end

def sampleInstant (text : String) : Option Instant := some text.length

def runningSession : RunSession := { queuedSession "b" "11" with status := "running" }

theorem exists_savedInBoth_two :
    ∃ t rows, SavedInBoth ⟨100⟩ plainHash sampleInstant t rows ∧
      t.runs = [runningSession, queuedSession "a" "1"] ∧ t.archive = [] ∧
      (∀ a ∈ t.stored, ∀ b ∈ t.stored, ∀ x y, sampleInstant a.createdAt = some x →
        sampleInstant b.createdAt = some y →
          (x ≤ y ↔ Json.keyLe a.createdAt b.createdAt = true)) ∧
      PostgresStateStore.listRuns { limit := 1, status := some "queued" } rows =
        .ok [queuedSession "a" "1"] := by
  obtain ⟨s, hfirst, hsfiles⟩ := exists_save ⟨100⟩ plainHash (queuedSession "a" "1") {}
  obtain ⟨t, hsecond, htfiles⟩ := exists_save ⟨100⟩ plainHash runningSession s
  have hs : s.stored = [queuedSession "a" "1"] := by
    rw [RunStore.stored, hsfiles.1, hsfiles.2.1]
    decide +kernel
  have ht := (@RunStore.SameFiles.saveSession ⟨100⟩ runningSession _ _ hsfiles).2.trans htfiles
  have hsaved : SavedInBoth ⟨100⟩ plainHash sampleInstant s _ :=
    SavedInBoth.start.save (by simp [RunStore.stored]) hfirst rfl
  have hruns : t.runs = [runningSession, queuedSession "a" "1"] := by
    rw [ht.1]
    decide +kernel
  have harchive : t.archive = [] := by
    rw [ht.2.1]
    decide +kernel
  refine ⟨t, _, hsaved.save ?_ hsecond rfl, hruns, harchive, ?_, rfl⟩
  · rw [hs]
    decide +kernel
  · simp only [RunStore.stored, hruns, harchive, List.append_nil, List.mem_cons, List.not_mem_nil,
      or_false, sampleInstant, Option.some.injEq]
    rintro a (rfl | rfl) b (rfl | rfl) x y rfl rfl <;> decide +kernel

theorem filtered_listing_agrees_iff_sample :
    ∃ t rows, SavedInBoth ⟨100⟩ plainHash sampleInstant t rows ∧ t.stored.length = 2 ∧
      PostgresStateStore.listRuns { limit := 1, status := some "running" } rows =
        .ok (t.listRuns { limit := 1, status := some "running" }) := by
  obtain ⟨t, rows, hsaved, hruns, harchive, horder, -⟩ := exists_savedInBoth_two
  have hstored : t.stored = [runningSession, queuedSession "a" "1"] := by
    rw [RunStore.stored, hruns, harchive]
    rfl
  refine ⟨t, rows, hsaved, by rw [hstored]; rfl, ?_⟩
  refine (filtered_listing_agrees_iff hsaved ?_ ?_ horder _).mpr ⟨by decide, .inr ?_⟩
  · rw [hstored]
    decide +kernel
  · rw [hstored]
    decide +kernel
  · rw [hstored]
    decide +kernel

/-- The older of two runs is asked for, with a limit of one: the file store does
not find it. -/
theorem filtered_run_not_listed :
    ¬ ∀ (config : StoreConfig) (hash : MerkleHash) (instant : String → Option Instant)
      (t : RunStore) (rows : List PostgresStateStore.RunRow),
      SavedInBoth config hash instant t rows → (t.stored.map RunSession.runId).Nodup →
      (t.stored.map RunSession.createdAt).Nodup →
      (∀ a ∈ t.stored, ∀ b ∈ t.stored, ∀ x y, instant a.createdAt = some x →
        instant b.createdAt = some y → (x ≤ y ↔ Json.keyLe a.createdAt b.createdAt = true)) →
      ∀ filters : RunFilters, 0 ≤ filters.limit →
        PostgresStateStore.listRuns filters rows = .ok (t.listRuns filters) := by
  intro hclaim
  obtain ⟨t, rows, hsaved, hruns, harchive, horder, hrows⟩ := exists_savedInBoth_two
  have hsame := hclaim _ _ _ t rows hsaved
    (by rw [RunStore.stored, hruns, harchive]; decide +kernel)
    (by rw [RunStore.stored, hruns, harchive]; decide +kernel) horder
    { limit := 1, status := some "queued" } (by decide)
  rw [hrows, RunStore.listRuns, RunStore.listRunSessions, hruns, harchive, Except.ok.injEq] at hsame
  revert hsame
  decide +kernel

end OrbitalMesh
