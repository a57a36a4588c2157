import Mathlib.Data.List.Nodup
import Mathlib.Data.List.Perm.Subperm
import OrbitalMesh.Runtime

/-!
# Admission of runs

Two runs must not act on one target at the same time, and a tenant may have only
so many runs.  `create_run` looks the target lock and the tenant's runs up in one
locked section, and takes the lock in a later one; the worker that has executed
the run gives it back, and so does an operator who cancels the run.

Each locked section is a step of its own.  A run is unfinished from its
registration until its worker returns.
-/

namespace OrbitalMesh.RunAdmission

variable (boundary : Dict)

/-- `str(boundary.get(member) or "unknown")`. -/
def textOrUnknown (member : String) : String :=
  let text := textOrEmpty boundary member
  if text = "" then "unknown" else text

/-- `str(boundary.get(member) or "unknown").strip() or "unknown"`. -/
def lockPart (member : String) : String :=
  let part := pyStrip (textOrUnknown boundary member)
  if part = "" then "unknown" else part

def buildTargetLockKey : String :=
  lockPart boundary "tenant_id" ++ ":" ++ lockPart boundary "environment" ++ ":" ++
    lockPart boundary "service"

/-- The members of the configuration that admission reads. -/
structure AdmissionConfig where
  runQueueSize : Int
  tenantActiveRunQuota : Int

/-- The members of the packet that are read again. -/
structure Packet where
  tenantId : String
  targetLockKey : String
  blockers : List String

def buildRunAdmission (config : AdmissionConfig) (boundary : Dict) (queueDepth : Nat)
    (tenantActiveRuns : Nat) (targetLockHolder : Option String) : Packet :=
  { tenantId := textOrUnknown boundary "tenant_id"
    targetLockKey := buildTargetLockKey boundary
    blockers :=
      (if config.runQueueSize ≤ (queueDepth : Int) then ["run_queue_full"] else []) ++
      (if 0 < config.tenantActiveRunQuota ∧
          config.tenantActiveRunQuota ≤ (tenantActiveRuns : Int) then
        ["tenant_active_run_quota_exceeded"] else []) ++
      (if (targetLockHolder.getD "") ≠ "" then ["target_lock_held"] else []) }

/-- `admission["decision"] == "admitted"`. -/
def Packet.admitted (packet : Packet) : Bool := packet.blockers.isEmpty

inductive Phase where
  /-- looked up, not registered yet -/
  | checked
  /-- registered, not queued yet -/
  | registered
  | queued
  | executing
  /-- the queue was full -/
  | refused
  | finished
deriving DecidableEq

structure Run where
  runId : String
  tenantId : String
  targetLockKey : String
  enforceTargetLock : Bool
  phase : Phase
deriving DecidableEq

def Run.unfinished (run : Run) : Bool :=
  run.phase == .registered || run.phase == .queued || run.phase == .executing

/-- What the lock of the coordinator protects, the queue, and the admitted
runs. -/
structure Coordinator where
  activeTargetLocks : Table String
  runTargetLocks : Table String
  runTenants : List (String × String)
  runQueue : List String
  runs : List Run

def Coordinator.empty : Coordinator :=
  { activeTargetLocks := ∅, runTargetLocks := ∅, runTenants := [], runQueue := [], runs := [] }

/-- `sum(1 for item in self._run_tenants.values() if item == tenant_id)`. -/
def Coordinator.tenantRuns (s : Coordinator) (tenantId : String) : Nat :=
  s.runTenants.countP fun entry => entry.2 == tenantId

def advance (runs : List Run) (runId : String) (phase : Phase) : List Run :=
  runs.map fun run => if run.runId = runId then { run with phase } else run

/-- `_release_run_admission`, which is also what `_finalize_run` does here. -/
def release (s : Coordinator) (runId : String) : Coordinator :=
  let runTenants := s.runTenants.filter fun entry => entry.1 ≠ runId
  match s.runTargetLocks[runId]? with
  | none => { s with runTenants }
  | some key =>
    { s with
      runTenants
      runTargetLocks := s.runTargetLocks.erase runId
      activeTargetLocks :=
        if key ≠ "" ∧ s.activeTargetLocks[key]? = some runId then s.activeTargetLocks.erase key
        else s.activeTargetLocks }

/-- The section of `create_run` that registers an admitted run. -/
def register (s : Coordinator) (run : Run) : Coordinator :=
  { s with
    runTenants := (run.runId, run.tenantId) ::
      s.runTenants.filter fun entry => entry.1 ≠ run.runId
    runTargetLocks := s.runTargetLocks.insert run.runId run.targetLockKey
    activeTargetLocks :=
      if run.enforceTargetLock then s.activeTargetLocks.insert run.targetLockKey run.runId
      else s.activeTargetLocks
    runs := advance s.runs run.runId .registered }

inductive Act where
  /-- `_build_run_admission` -/
  | check (runId : String) (boundary : Dict) (enforceTargetLock : Bool)
  /-- the registration of `create_run` -/
  | register (runId : String)
  /-- `self._run_queue.put_nowait(...)` -/
  | enqueue (runId : String)
  /-- a worker takes the next run off the queue -/
  | begin
  /-- `_finalize_run`, by the worker or after a full queue -/
  | finalize (runId : String)
  /-- `_release_run_admission`, for an operator's `cancel` -/
  | cancel (runId : String)

def Coordinator.find (s : Coordinator) (runId : String) (phases : List Phase) : Option Run :=
  s.runs.find? fun run => run.runId == runId && phases.contains run.phase

def step (config : AdmissionConfig) (s : Coordinator) : Act → Option Coordinator
  | .check runId boundary enforceTargetLock =>
    let key := buildTargetLockKey boundary
    let holder := if enforceTargetLock then s.activeTargetLocks[key]? else none
    let packet := buildRunAdmission config boundary s.runQueue.length
      (s.tenantRuns (textOrUnknown boundary "tenant_id")) holder
    if packet.admitted then
      some { s with runs := s.runs ++ [{
        runId, enforceTargetLock
        tenantId := packet.tenantId
        targetLockKey := packet.targetLockKey
        phase := .checked }] }
    else some s
  | .register runId => (s.find runId [.checked]).map (register s)
  | .enqueue runId =>
    (s.find runId [.registered]).map fun _ =>
      if 0 < config.runQueueSize ∧ config.runQueueSize ≤ (s.runQueue.length : Int) then
        { s with runs := advance s.runs runId .refused }
      else
        { s with runQueue := s.runQueue ++ [runId], runs := advance s.runs runId .queued }
  | .begin =>
    match s.runQueue with
    | [] => none
    | runId :: runQueue => some { s with runQueue, runs := advance s.runs runId .executing }
  | .finalize runId =>
    (s.find runId [.executing, .refused, .finished]).map fun _ =>
      { release s runId with runs := advance s.runs runId .finished }
  | .cancel runId => some (release s runId)

/-- A run of the system in which every step satisfies `P` where it is taken. -/
inductive Reaches (config : AdmissionConfig) (P : Coordinator → Act → Prop) :
    Coordinator → Prop
  | refl : Reaches config P .empty
  | tail {s t : Coordinator} {act : Act} (run : Reaches config P s) (hact : P s act)
      (hstep : step config s act = some t) : Reaches config P t

section

variable {s : Coordinator} {runs : List Run} {run : Run} {runId : String} {phase : Phase}

theorem find_spec {phases : List Phase} (h : s.find runId phases = some run) :
    run ∈ s.runs ∧ run.runId = runId ∧ run.phase ∈ phases := by
  have hrun := List.find?_some h
  simp only [Bool.and_eq_true, beq_iff_eq, List.contains_eq_mem, decide_eq_true_eq] at hrun
  exact ⟨List.mem_of_find?_eq_some h, hrun⟩

theorem map_advance {β : Type} {f : Run → β} (hf : ∀ run phase, f { run with phase } = f run)
    (runId : String) (phase : Phase) : (advance runs runId phase).map f = runs.map f := by
  simp only [advance, List.map_map]
  refine List.map_congr_left fun run _ => ?_
  simp only [Function.comp_apply]
  split
  · exact hf run phase
  · rfl

theorem mem_advance (h : run ∈ advance runs runId phase) :
    (run ∈ runs ∧ run.runId ≠ runId) ∨
      ∃ old ∈ runs, old.runId = runId ∧ run = { old with phase } := by
  obtain ⟨old, hold, rfl⟩ := List.mem_map.mp h
  split
  · next hid => exact .inr ⟨old, hold, hid, rfl⟩
  · next hid => exact .inl ⟨hold, hid⟩

theorem advance_mem (h : run ∈ runs) (hid : run.runId ≠ runId) : run ∈ advance runs runId phase :=
  List.mem_map.mpr ⟨run, h, if_neg hid⟩

theorem eq_of_runId_eq {other : Run} (hdistinct : (runs.map (·.runId)).Nodup) (h : run ∈ runs)
    (hother : other ∈ runs) (hid : run.runId = other.runId) : run = other :=
  List.inj_on_of_nodup_map hdistinct h hother hid

end

def Holds (s : Coordinator) (run : Run) : Prop :=
  s.runTargetLocks[run.runId]? = some run.targetLockKey ∧
    s.activeTargetLocks[run.targetLockKey]? = some run.runId ∧
    (run.runId, run.tenantId) ∈ s.runTenants

variable {s : Coordinator} {config : AdmissionConfig} {run : Run} {t : Coordinator}

theorem Holds.lock (h : Holds s run) :
    s.activeTargetLocks[run.targetLockKey]? = some run.runId := h.2.1

theorem Holds.tenant (h : Holds s run) : (run.runId, run.tenantId) ∈ s.runTenants := h.2.2

/-- Giving back the admission of one run leaves the others theirs. -/
theorem Holds.release {runId : String} (h : Holds s run) (hid : run.runId ≠ runId) :
    Holds (release s runId) run := by
  have htenant : (run.runId, run.tenantId) ∈ s.runTenants.filter fun entry => entry.1 ≠ runId := by
    simpa using ⟨h.tenant, hid⟩
  unfold RunAdmission.release
  cases hkey : s.runTargetLocks[runId]? with
  | none => exact ⟨h.1, h.lock, htenant⟩
  | some key =>
    refine ⟨?_, ?_, htenant⟩
    · exact (Table.get_erase_of_ne _ hid).trans h.1
    · simp only
      split
      · next hmine =>
        have hne : run.targetLockKey ≠ key := by
          rintro rfl
          exact hid (Option.some.inj (h.lock.symm.trans hmine.2))
        exact (Table.get_erase_of_ne _ hne).trans h.lock
      · exact h.lock

theorem Holds.register {new : Run} (h : Holds s run) (hid : run.runId ≠ new.runId)
    (hfree : s.activeTargetLocks[new.targetLockKey]? = none) : Holds (register s new) run := by
  have hkey : run.targetLockKey ≠ new.targetLockKey := by
    intro heq
    rw [← heq, h.lock] at hfree
    cases hfree
  refine ⟨?_, ?_, ?_⟩
  · exact (Table.get_insert_of_ne _ _ hid).trans h.1
  · simp only [RunAdmission.register]
    split
    · exact (Table.get_insert_of_ne _ _ hkey).trans h.lock
    · exact h.lock
  · have hkept : (run.runId, run.tenantId) ∈
        s.runTenants.filter fun entry => entry.1 ≠ new.runId := by
      simpa using ⟨h.tenant, hid⟩
    exact List.mem_cons_of_mem _ hkept

theorem holds_register {s : Coordinator} {run : Run} (henforced : run.enforceTargetLock = true) :
    Holds (register s run) run := by
  refine ⟨Table.get_insert_self _ _ _, ?_, List.mem_cons_self⟩
  simp only [RunAdmission.register, henforced, ↓reduceIte]
  exact Table.get_insert_self _ _ _

theorem tenantRuns_release (s : Coordinator) (runId tenantId : String) :
    (release s runId).tenantRuns tenantId ≤ s.tenantRuns tenantId := by
  have htenants : (release s runId).runTenants =
      s.runTenants.filter fun entry => entry.1 ≠ runId := by
    unfold release
    split <;> rfl
  unfold Coordinator.tenantRuns
  rw [htenants]
  exact (List.filter_sublist).countP_le

theorem tenantRuns_register (s : Coordinator) (run : Run) (tenantId : String) :
    (register s run).tenantRuns tenantId ≤
      s.tenantRuns tenantId + if run.tenantId = tenantId then 1 else 0 := by
  have hfilter : (s.runTenants.filter fun entry => entry.1 ≠ run.runId).countP
      (fun entry => entry.2 == tenantId) ≤ s.tenantRuns tenantId :=
    (List.filter_sublist).countP_le
  simp only [Coordinator.tenantRuns, register, List.countP_cons, beq_iff_eq] at hfilter ⊢
  omega

/-- The lock is free and the quota not used up at registration, ids are new, and no run is
cancelled before its worker returns. -/
def Careful (config : AdmissionConfig) (s : Coordinator) : Act → Prop
  | .check runId _ enforceTargetLock =>
    enforceTargetLock = true ∧ runId ∉ s.runs.map (·.runId)
  | .register runId => ∀ run ∈ s.runs, run.runId = runId →
      s.activeTargetLocks[run.targetLockKey]? = none ∧
        (s.tenantRuns run.tenantId : Int) < config.tenantActiveRunQuota
  | .cancel runId => ∀ run ∈ s.runs, run.runId = runId → run.unfinished = false
  | _ => True

structure Exclusive (config : AdmissionConfig) (s : Coordinator) : Prop where
  distinct : (s.runs.map (·.runId)).Nodup
  enforced : ∀ run ∈ s.runs, run.enforceTargetLock = true
  queued : ∀ runId ∈ s.runQueue, ∃ run ∈ s.runs, run.runId = runId ∧ run.phase = .queued
  once : s.runQueue.Nodup
  holds : ∀ run ∈ s.runs, run.unfinished = true → Holds s run
  quota : ∀ tenantId, (s.tenantRuns tenantId : Int) ≤ config.tenantActiveRunQuota

section

variable {config : AdmissionConfig} {s : Coordinator} {runId : String} {phase : Phase}

theorem Exclusive.not_in_queue (h : Exclusive config s) {run : Run} (hrun : run ∈ s.runs)
    (hphase : run.phase ≠ .queued) : run.runId ∉ s.runQueue := by
  intro hmem
  obtain ⟨other, hother, hid, hqueued⟩ := h.queued _ hmem
  rw [eq_of_runId_eq h.distinct hother hrun hid] at hqueued
  exact hphase hqueued

theorem Exclusive.advance_runs (h : Exclusive config s) (runId : String) (phase : Phase) :
    ((advance s.runs runId phase).map (·.runId)).Nodup ∧
      ∀ run ∈ advance s.runs runId phase, run.enforceTargetLock = true := by
  constructor
  · rw [map_advance (fun _ _ => rfl)]
    exact h.distinct
  · intro run hrun
    rcases mem_advance hrun with ⟨hold, -⟩ | ⟨old, hold, -, rfl⟩
    · exact h.enforced run hold
    · exact h.enforced old hold

theorem Exclusive.advance_queued (h : Exclusive config s) (hid : runId ∉ s.runQueue) :
    ∀ id ∈ s.runQueue, ∃ run ∈ advance s.runs runId phase,
      run.runId = id ∧ run.phase = .queued := by
  intro id hmem
  obtain ⟨run, hrun, rfl, hqueued⟩ := h.queued id hmem
  have hne : run.runId ≠ runId := by
    rintro rfl
    exact hid hmem
  exact ⟨run, advance_mem hrun hne, rfl, hqueued⟩

end

/-- **A careful step keeps exclusion.** -/
theorem step_exclusive {act : Act} (h : step config s act = some t)
    (hcareful : Careful config s act) (hs : Exclusive config s) : Exclusive config t := by
  cases act with
  | check runId boundary enforceTargetLock =>
    obtain ⟨rfl, hfresh⟩ := hcareful
    simp only [step, ↓reduceIte] at h
    split at h
    · cases h
      refine ⟨?_, ?_, ?_, hs.once, ?_, hs.quota⟩
      · simp only [List.map_append, List.map_cons, List.map_nil]
        rw [← List.concat_eq_append]
        exact hs.distinct.concat hfresh
      · simp only [List.mem_append, List.mem_singleton]
        rintro run (hold | rfl)
        · exact hs.enforced run hold
        · rfl
      · intro id hmem
        obtain ⟨run, hrun, hid⟩ := hs.queued id hmem
        exact ⟨run, List.mem_append_left _ hrun, hid⟩
      · simp only [List.mem_append, List.mem_singleton]
        rintro run (hold | rfl) hunfinished
        · exact hs.holds run hold hunfinished
        · cases hunfinished
    · cases h
      exact hs
  | register runId =>
    obtain ⟨run, hfound, rfl⟩ := Option.map_eq_some_iff.mp h
    obtain ⟨hrun, rfl, hphase⟩ := find_spec hfound
    obtain ⟨hfree, hroom⟩ := hcareful run hrun rfl
    have hchecked : run.phase = .checked := by simpa using hphase
    have hwaiting := hs.not_in_queue hrun (by rw [hchecked]; decide)
    obtain ⟨hdistinct, henforced⟩ := hs.advance_runs run.runId .registered
    refine ⟨hdistinct, henforced, hs.advance_queued hwaiting, hs.once, ?_, ?_⟩
    · intro other hother hunfinished
      rcases mem_advance hother with ⟨hold, hid⟩ | ⟨old, hold, hid, rfl⟩
      · exact (hs.holds other hold hunfinished).register hid hfree
      · rw [eq_of_runId_eq hs.distinct hold hrun hid]
        exact @holds_register s run (hs.enforced run hrun)
    · intro tenantId
      have hcount := tenantRuns_register s run tenantId
      have hquota := hs.quota tenantId
      split at hcount
      · next heq =>
        rw [heq] at hroom
        omega
      · omega
  | enqueue runId =>
    obtain ⟨run, hfound, rfl⟩ := Option.map_eq_some_iff.mp h
    obtain ⟨hrun, rfl, hphase⟩ := find_spec hfound
    have hregistered : run.phase = .registered := by simpa using hphase
    have hwaiting := hs.not_in_queue hrun (by rw [hregistered]; decide)
    have hheld := hs.holds run hrun (by simp [Run.unfinished, hregistered])
    split
    · obtain ⟨hdistinct, henforced⟩ := hs.advance_runs run.runId .refused
      refine ⟨hdistinct, henforced, hs.advance_queued hwaiting, hs.once, ?_, hs.quota⟩
      intro other hother hunfinished
      rcases mem_advance hother with ⟨hold, -⟩ | ⟨old, hold, -, rfl⟩
      · exact hs.holds other hold hunfinished
      · cases hunfinished
    · obtain ⟨hdistinct, henforced⟩ := hs.advance_runs run.runId .queued
      refine ⟨hdistinct, henforced, ?_, ?_, ?_, hs.quota⟩
      · simp only [List.mem_append, List.mem_singleton]
        rintro id (hmem | rfl)
        · exact hs.advance_queued hwaiting id hmem
        · exact ⟨{ run with phase := .queued },
            List.mem_map.mpr ⟨run, hrun, if_pos rfl⟩, rfl, rfl⟩
      · rw [← List.concat_eq_append]
        exact List.Nodup.concat hwaiting hs.once
      · intro other hother hunfinished
        rcases mem_advance hother with ⟨hold, -⟩ | ⟨old, hold, hid, rfl⟩
        · exact hs.holds other hold hunfinished
        · rw [eq_of_runId_eq hs.distinct hold hrun hid]
          exact hheld
  | begin =>
    simp only [step] at h
    split at h
    · cases h
    · next runId rest hqueue =>
      cases h
      have hmem : runId ∈ s.runQueue := by rw [hqueue]; exact List.mem_cons_self
      obtain ⟨run, hrun, rfl, hqueued⟩ := hs.queued runId hmem
      have honce := hs.once
      rw [hqueue, List.nodup_cons] at honce
      obtain ⟨hdistinct, henforced⟩ := hs.advance_runs run.runId .executing
      refine ⟨hdistinct, henforced, ?_, honce.2, ?_, hs.quota⟩
      · intro id hid
        obtain ⟨other, hother, rfl, hwaiting⟩ := hs.queued id (by
          rw [hqueue]
          exact List.mem_cons_of_mem _ hid)
        have hne : other.runId ≠ run.runId := by
          intro heq
          rw [heq] at hid
          exact honce.1 hid
        exact ⟨other, advance_mem hother hne, rfl, hwaiting⟩
      · intro other hother hunfinished
        rcases mem_advance hother with ⟨hold, -⟩ | ⟨old, hold, hid, rfl⟩
        · exact hs.holds other hold hunfinished
        · rw [eq_of_runId_eq hs.distinct hold hrun hid]
          exact hs.holds run hrun (by simp [Run.unfinished, hqueued])
  | finalize runId =>
    obtain ⟨run, hfound, rfl⟩ := Option.map_eq_some_iff.mp h
    obtain ⟨hrun, rfl, hphase⟩ := find_spec hfound
    have hwaiting := hs.not_in_queue hrun (by
      intro hqueued
      rw [hqueued] at hphase
      simp at hphase)
    have hqueue : (release s run.runId).runQueue = s.runQueue := by
      unfold release
      split <;> rfl
    obtain ⟨hdistinct, henforced⟩ := hs.advance_runs run.runId .finished
    refine ⟨hdistinct, henforced, ?_, ?_, ?_, ?_⟩
    · simp only [hqueue]
      exact hs.advance_queued hwaiting
    · simp only [hqueue]
      exact hs.once
    · intro other hother hunfinished
      rcases mem_advance hother with ⟨hold, hid⟩ | ⟨old, -, -, rfl⟩
      · exact (hs.holds other hold hunfinished).release hid
      · cases hunfinished
    · intro tenantId
      have hcount := tenantRuns_release s run.runId tenantId
      have hquota := hs.quota tenantId
      simp only [Coordinator.tenantRuns] at hcount hquota ⊢
      omega
  | cancel runId =>
    cases h
    have hsame : (release s runId).runs = s.runs ∧ (release s runId).runQueue = s.runQueue := by
      unfold release
      split <;> exact ⟨rfl, rfl⟩
    obtain ⟨hruns, hqueue⟩ := hsame
    refine ⟨?_, ?_, ?_, ?_, ?_, ?_⟩
    · rw [hruns]
      exact hs.distinct
    · rw [hruns]
      exact hs.enforced
    · rw [hruns, hqueue]
      exact hs.queued
    · rw [hqueue]
      exact hs.once
    · rw [hruns]
      intro run hrun hunfinished
      refine (hs.holds run hrun hunfinished).release fun hid => ?_
      rw [hcareful run hrun hid] at hunfinished
      cases hunfinished
    · intro tenantId
      have hcount := tenantRuns_release s runId tenantId
      have hquota := hs.quota tenantId
      omega

theorem reaches_exclusive (hquota : 0 < config.tenantActiveRunQuota)
    (hreach : Reaches config (Careful config) s) : Exclusive config s := by
  induction hreach with
  | refl =>
    refine ⟨List.nodup_nil, ?_, ?_, List.nodup_nil, ?_, ?_⟩
    · simp [Coordinator.empty]
    · simp [Coordinator.empty]
    · simp [Coordinator.empty]
    · intro tenantId
      simp only [Coordinator.tenantRuns, Coordinator.empty, List.countP_nil]
      omega
  | tail _ hcareful hstep ih => exact step_exclusive hstep hcareful ih

def Coordinator.unfinishedOf (s : Coordinator) (tenantId : String) : List Run :=
  s.runs.filter fun run => run.unfinished && run.tenantId == tenantId

theorem length_unfinishedOf (hs : Exclusive config s) (tenantId : String) :
    (s.unfinishedOf tenantId).length ≤ s.tenantRuns tenantId := by
  have hdistinct : ((s.unfinishedOf tenantId).map (·.runId)).Nodup :=
    hs.distinct.sublist ((List.filter_sublist).map _)
  have hlisted : (s.unfinishedOf tenantId).map (·.runId) ⊆
      (s.runTenants.filter fun entry => entry.2 == tenantId).map Prod.fst := by
    intro runId hmem
    obtain ⟨run, hactive, rfl⟩ := List.mem_map.mp hmem
    simp only [Coordinator.unfinishedOf, List.mem_filter, Bool.and_eq_true, beq_iff_eq] at hactive
    obtain ⟨hrun, hunfinished, rfl⟩ := hactive
    have htenant := (hs.holds run hrun hunfinished).tenant
    exact List.mem_map.mpr ⟨_, List.mem_filter.mpr ⟨htenant, by simp⟩, rfl⟩
  have hle := (hdistinct.subperm hlisted).length_le
  simpa [Coordinator.tenantRuns, List.countP_eq_length_filter] using hle

/-- **One run for each target, `q` for each tenant**, in every careful run. -/
theorem admission_excludes {config : AdmissionConfig} (hquota : 0 < config.tenantActiveRunQuota)
    {s : Coordinator} (hreach : Reaches config (Careful config) s) :
    (∀ run ∈ s.runs, ∀ other ∈ s.runs, run.unfinished = true → other.unfinished = true →
      run.targetLockKey = other.targetLockKey → run = other) ∧
    (∀ tenantId, ((s.unfinishedOf tenantId).length : Int) ≤ config.tenantActiveRunQuota) ∧
    ∀ run ∈ s.runs, run.phase = .executing →
      s.activeTargetLocks[run.targetLockKey]? = some run.runId := by
  have hs := reaches_exclusive hquota hreach
  refine ⟨?_, ?_, ?_⟩
  · intro run hrun other hother hunfinished hunfinished' hkey
    have hlock := (hs.holds run hrun hunfinished).lock
    have hlock' := (hs.holds other hother hunfinished').lock
    rw [hkey, hlock'] at hlock
    exact eq_of_runId_eq hs.distinct hrun hother (Option.some.inj hlock).symm
  · intro tenantId
    have hlength := length_unfinishedOf hs tenantId
    have hquota := hs.quota tenantId
    omega
  · intro run hrun hexecuting
    exact (hs.holds run hrun (by simp [Run.unfinished, hexecuting])).lock

def play (config : AdmissionConfig) (check : Coordinator → Act → Bool) : List Act →
    Coordinator → Option Coordinator
  | [], s => some s
  | act :: rest, s =>
    if check s act then (step config s act).bind (play config check rest) else none

theorem play_reaches {P : Coordinator → Act → Prop} {check : Coordinator → Act → Bool}
    (hcheck : ∀ s act, check s act = true → P s act) {acts : List Act}
    (hreach : Reaches config P s) (hplay : play config check acts s = some t) :
    Reaches config P t := by
  induction acts generalizing s with
  | nil =>
    cases hplay
    exact hreach
  | cons act rest ih =>
    simp only [play] at hplay
    split at hplay
    · next hact =>
      obtain ⟨middle, hstep, hrest⟩ := Option.bind_eq_some_iff.mp hplay
      exact ih (hreach.tail (hcheck s act hact) hstep) hrest
    · cases hplay

def isCareful (config : AdmissionConfig) (s : Coordinator) : Act → Bool
  | .check runId _ enforceTargetLock =>
    enforceTargetLock && !(s.runs.map (·.runId)).contains runId
  | .register runId => s.runs.all fun run => run.runId != runId ||
      (s.activeTargetLocks[run.targetLockKey]?).isNone &&
        decide ((s.tenantRuns run.tenantId : Int) < config.tenantActiveRunQuota)
  | .cancel runId => s.runs.all fun run => run.runId != runId || !run.unfinished
  | _ => true

theorem careful_of_isCareful (s : Coordinator) (act : Act) (h : isCareful config s act = true) :
    Careful config s act := by
  cases act with
  | check runId boundary enforceTargetLock => simpa [isCareful, Careful] using h
  | register runId | cancel runId =>
    intro run hrun hid
    have hall := List.all_eq_true.mp h run hrun
    simpa [hid] using hall
  | enqueue _ | begin | finalize _ => trivial

def sampleConfig : AdmissionConfig := { runQueueSize := 16, tenantActiveRunQuota := 2 }

def sampleBoundary : Dict :=
  [("tenant_id", .str "acme"), ("environment", .str "prod"), ("service", .str "checkout")]

def carefulActs : List Act :=
  [.check "r1" sampleBoundary true, .register "r1", .enqueue "r1", .begin, .finalize "r1",
   .check "r2" sampleBoundary true, .register "r2", .enqueue "r2", .begin]

theorem admission_excludes_sample :
    ∃ s, Reaches sampleConfig (Careful sampleConfig) s ∧
      (∀ run ∈ s.runs, ∀ other ∈ s.runs, run.unfinished = true → other.unfinished = true →
        run.targetLockKey = other.targetLockKey → run = other) ∧
      (∀ tenantId,
        ((s.unfinishedOf tenantId).length : Int) ≤ sampleConfig.tenantActiveRunQuota) ∧
      ∃ run ∈ s.runs, run.runId = "r2" ∧ run.phase = .executing ∧
        s.activeTargetLocks[run.targetLockKey]? = some run.runId := by
  have hplay : ((play sampleConfig (isCareful sampleConfig) carefulActs .empty).any
      fun s => s.runs.any fun run => run.runId == "r2" && run.phase == .executing) = true := by
    decide +kernel
  obtain ⟨s, hs, hrunning⟩ := (Option.any_eq_true _ _).mp hplay
  obtain ⟨run, hrun, hphase⟩ := List.any_eq_true.mp hrunning
  simp only [Bool.and_eq_true, beq_iff_eq] at hphase
  have hreach := play_reaches careful_of_isCareful .refl hs
  obtain ⟨hone, hquota, hlock⟩ := admission_excludes (by decide) hreach
  exact ⟨s, hreach, hone, hquota, run, hrun, hphase.1, hphase.2, hlock run hrun hphase.2⟩

def racingActs : List Act :=
  [.check "r1" sampleBoundary true, .check "r2" sampleBoundary true, .register "r1",
   .register "r2", .enqueue "r1", .enqueue "r2", .begin, .begin]

/-- **Two runs on one target.**  Both calls find the target free, and both runs execute at the
same time. -/
theorem two_runs_on_one_target :
    ∃ s, Reaches sampleConfig (fun _ _ => True) s ∧
      ∃ run ∈ s.runs, ∃ other ∈ s.runs, run ≠ other ∧ run.phase = .executing ∧
        other.phase = .executing ∧ run.targetLockKey = other.targetLockKey ∧
        s.activeTargetLocks[run.targetLockKey]? ≠ some run.runId := by
  have hplay : ((play sampleConfig (fun _ _ => true) racingActs .empty).any fun s =>
      s.runs.any fun run => s.runs.any fun other => run != other && run.phase == .executing &&
        other.phase == .executing && run.targetLockKey == other.targetLockKey &&
        s.activeTargetLocks[run.targetLockKey]? != some run.runId) = true := by
    decide +kernel
  obtain ⟨s, hs, hrunning⟩ := (Option.any_eq_true _ _).mp hplay
  obtain ⟨run, hrun, hrunning⟩ := List.any_eq_true.mp hrunning
  obtain ⟨other, hother, hboth⟩ := List.any_eq_true.mp hrunning
  simp only [Bool.and_eq_true, bne_iff_ne, beq_iff_eq] at hboth
  obtain ⟨⟨⟨⟨hne, hexecuting⟩, hexecuting'⟩, hkey⟩, hlost⟩ := hboth
  have hreach : Reaches sampleConfig (fun _ _ => True) s :=
    play_reaches (fun _ _ _ => trivial) .refl hs
  exact ⟨s, hreach, run, hrun, other, hother, hne, hexecuting, hexecuting', hkey, hlost⟩

end OrbitalMesh.RunAdmission
