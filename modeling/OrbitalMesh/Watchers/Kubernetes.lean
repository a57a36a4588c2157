import OrbitalMesh.Base.Keyed
import OrbitalMesh.Runtime
import Mathlib.Data.List.Induction

/-!
# The Kubernetes watcher

A tick polls every target: it reads the run it got last for the target's
namespace and deployment, a clock, and the state of the deployment, and asks the
coordinator for a run unless one of four gates holds it back.  Between the polls
the coordinator launches runs of its own and writes the statuses of all of them.
-/

namespace OrbitalMesh.Watchers.Kubernetes

/-- A pod of `collect_kubernetes_signal`. -/
structure Pod where
  phase : Option String := none
  ready : Bool := false
  restarts : Int := 0
  containerStatus : Option String := none
  lastStateReason : Option String := none
deriving DecidableEq

/-- What the watcher reads of a signal. -/
structure Signal where
  rolloutStatus : String
  pods : List Pod
  errorSignatures : List String := []
  configurationDrift : Bool := false
deriving DecidableEq

def activelyFailingContainerStates : List String :=
  ["CrashLoopBackOff", "ImagePullBackOff", "ErrImagePull", "OOMKilled", "Error",
    "ContainerCannotRun", "CreateContainerConfigError", "CreateContainerError"]

def hardErrorSignatures : List String :=
  ["crash_loop", "image_pull_failure", "oom_killed", "application_error"]

def kubernetesSignalIsActionable (signal : Signal) : Bool :=
  let rolloutFailed := signal.rolloutStatus = "failed"
  let rolloutDegraded := signal.rolloutStatus = "degraded"
  let failingPods := signal.pods.any fun pod =>
    pod.restarts > 0 || pod.containerStatus.any activelyFailingContainerStates.contains
  let hardSignatures := signal.errorSignatures.any hardErrorSignatures.contains
  let readinessDegraded := signal.pods.any fun pod =>
    pod.phase = some "Running" && pod.containerStatus = some "Running" && !pod.ready
  signal.configurationDrift ||
    (rolloutDegraded && signal.errorSignatures.contains "probe_failure" && readinessDegraded) ||
    rolloutFailed || failingPods || (rolloutDegraded && hardSignatures)

/-- `sorted(set(...))` of texts. -/
def sortedSet (texts : List String) : List String :=
  texts.dedup.mergeSort fun a b => decide (a ≤ b)

def signatureParts (pod : Pod) : List String :=
  (pod.containerStatus.toList.filter fun status => status ≠ "" ∧ status ≠ "Running") ++
    pod.lastStateReason.toList.filter (· ≠ "")

def extractErrorSignature (signal : Signal) : String :=
  let text := "|".intercalate (sortedSet (signal.pods.flatMap signatureParts))
  if text = "" then "healthy" else text

/-- `session.status`. -/
inductive Status where
  | queued
  | running
  | awaitingOperator
  | completed
  | failed
  | cancelled
  | recoverySpawned
deriving DecidableEq

/-- A status that the worker of a run leaves it with. -/
def Status.final : Status → Bool
  | .completed | .failed | .cancelled | .recoverySpawned => true
  | _ => false

/-- The statuses that the watcher takes for the end of a run. -/
def Status.settled : Status → Bool
  | .completed | .failed | .cancelled => true
  | _ => false

structure WatchTarget where
  deploymentName : String
  «namespace» : String := "default"
  kubeContext : Option String := none
  cooldownSeconds : Option Int := none
deriving DecidableEq

/-- `dedup_key`. -/
def WatchTarget.key (target : WatchTarget) : String × String :=
  (target.namespace, target.deploymentName)

/-- `CorrelationContext.to_dict()`, as far as the watcher reads it. -/
structure Correlation where
  type : String
  affectedServices : List String
  signatures : List String
deriving DecidableEq

def correlationKey (correlation : Correlation) : String :=
  correlation.type ++ ":" ++ ",".intercalate correlation.affectedServices

/-- `run_payload`. -/
structure RunPayload where
  source : String := "kubernetes"
  watcherName : String
  deploymentName : String
  «namespace» : String
  kubeContext : Option String
  correlation : Option Correlation := none
  correlationKey : Option String := none
  coSignatures : Option (List String) := none
  steeringMode : String := "interruptible_auto"
deriving DecidableEq

/-- The payload that `_poll_target` builds. -/
def runPayload (watcherName : String) (target : WatchTarget) (errorSig : String)
    (correlation : Option Correlation) : RunPayload :=
  let payload : RunPayload := {
    watcherName
    deploymentName := target.deploymentName
    «namespace» := target.namespace
    kubeContext := target.kubeContext }
  match correlation with
  | some correlation =>
    if correlation.type = "none" then payload
    else { payload with
      correlation := some correlation
      correlationKey := some (correlationKey correlation)
      coSignatures := some (sortedSet (correlation.signatures ++ [errorSig])) }
  | none => payload

/-- `KubernetesWatcher.__init__`, as far as a poll reads it. -/
structure Config where
  name : String
  defaultCooldownSeconds : Int := 300

/-- `_DeduplicationEntry`. -/
structure Entry where
  lastRunId : Option Nat := none
  lastRunTime : Rat := 0
  lastErrorSignature : String := ""
  activeRunId : Option Nat := none

/-- What one poll meets. -/
structure Reading where
  /-- `get_run` returns -/
  lookup : Bool := true
  now : Rat
  /-- none, where `collect_kubernetes_signal` raises -/
  signal : Option Signal
  /-- none, where there is no correlator -/
  correlation : Option Correlation := none
  later : Rat
deriving DecidableEq

/-- A poll: its target, what it meets, the active run, and what `create_run` would answer. -/
structure Poll where
  target : WatchTarget
  reading : Reading
  activeStatus : Option Status
  got : Option Nat
deriving DecidableEq

/-- The run under way holds the target back. -/
def Entry.inFlight (entry : Entry) (poll : Poll) : Bool :=
  entry.activeRunId.isSome && (!poll.reading.lookup || poll.activeStatus.any fun s => !s.settled)

variable (config : Config)

def cooldown (target : WatchTarget) : Int :=
  target.cooldownSeconds.getD config.defaultCooldownSeconds

def Entry.cooling (entry : Entry) (poll : Poll) : Bool :=
  entry.lastRunTime ≠ 0 && poll.reading.now - entry.lastRunTime < cooldown config poll.target

/-- The signal that `collect_kubernetes_signal` returns, where the poll gets that
far. -/
def Entry.observes (entry : Entry) (poll : Poll) : Option Signal :=
  if entry.inFlight poll then none
  else if entry.cooling config poll then none
  else poll.reading.signal

def Entry.wants (entry : Entry) (signal : Signal) : Bool :=
  kubernetesSignalIsActionable signal &&
    !(extractErrorSignature signal = entry.lastErrorSignature && entry.lastRunId.isSome)

/-- What `_poll_target` asks `create_run` for. -/
def Entry.asks (entry : Entry) (poll : Poll) : Option RunPayload :=
  ((entry.observes config poll).filter entry.wants).map fun signal =>
    runPayload config.name poll.target (extractErrorSignature signal) poll.reading.correlation

/-- The entry that `_poll_target` leaves. -/
def Entry.after (entry : Entry) (poll : Poll) : Entry :=
  if entry.inFlight poll then entry
  else
    match (entry.observes config poll).filter entry.wants, poll.got with
    | some signal, some run => {
        lastRunId := some run
        activeRunId := some run
        lastRunTime := poll.reading.later
        lastErrorSignature := extractErrorSignature signal }
    | _, _ => { entry with activeRunId := none }

structure Polled where
  poll : Poll
  observed : Option Signal
  asked : Option RunPayload
deriving DecidableEq

def Entry.polled (entry : Entry) (poll : Poll) : Polled where
  poll
  observed := entry.observes config poll
  asked := entry.asks config poll

structure Run where
  createdFor : Option WatchTarget
  status : Status

/-- How `create_run` ends. -/
inductive Answer where
  | created (status : Status)
  /-- the signal is attached to a correlated run -/
  | attached (run : Nat)
  /-- it raises, or the correlator before it -/
  | raises

/-- A watcher in a tick, its entries, and the runs of the coordinator. -/
structure World where
  targets : List WatchTarget
  pending : List WatchTarget := []
  dedup : String × String → Entry := fun _ => {}
  runs : List Run := []

inductive Label where
  | tick
  /-- the tick polls its next target -/
  | poll (reading : Reading) (answer : Answer)
  /-- the coordinator writes the status of a run -/
  | report (run : Nat) (status : Status)
  /-- the coordinator creates a run for something else -/
  | launch (status : Status)

namespace World

variable (w : World)

/-- The status that `get_run` reads. -/
def statusOf (run : Nat) : Option Status := (w.runs[run]?).map Run.status

/-- The run that `create_run` answers with. -/
def answered : Answer → Option Nat
  | .created _ => some w.runs.length
  | .attached run => some run
  | .raises => none

/-- The runs after `create_run`. -/
def runsAfter (target : WatchTarget) : Answer → List Run
  | .created status => w.runs ++ [{ createdFor := some target, status }]
  | _ => w.runs

def pollOf (target : WatchTarget) (reading : Reading) (answer : Answer) : Poll where
  target
  reading
  activeStatus := (w.dedup target.key).activeRunId.bind w.statusOf
  got := w.answered answer

def step (config : Config) (w : World) : Label → Option (World × List Polled)
  | .tick => if w.pending = [] then some ({ w with pending := w.targets }, []) else none
  | .poll reading answer =>
    match w.pending with
    | [] => none
    | target :: pending =>
      let entry := w.dedup target.key
      let poll := w.pollOf target reading answer
      let polled := entry.polled config poll
      some ({ w with
        pending
        dedup := Keyed.cellsAfter (Entry.after config) (·.target.key) w.dedup poll
        runs := if polled.asked.isSome then w.runsAfter target answer else w.runs }, [polled])
  | .report run status =>
    match w.statusOf run with
    | some old =>
      -- only the worker of a run writes its status, and a final one is its last word
      if old.final && !status.final then none
      else some ({ w with runs := w.runs.modify run fun r => { r with status } }, [])
    | none => none
  | .launch status => some ({ w with runs := w.runs ++ [{ createdFor := none, status }] }, [])

/-- Steps, one after the other, with the polls they make. -/
def run (config : Config) (w : World) : List Label → Option (World × List Polled)
  | [] => some (w, [])
  | label :: labels =>
    (w.step config label).bind fun (v, polls) =>
      (v.run config labels).map fun (u, later) => (u, polls ++ later)

end World

section

variable {config : Config} {entry : Entry} {poll : Poll}

/-- The poll gets a run: it asks for one, and `create_run` answers. -/
def Polled.gets (polled : Polled) : Bool := polled.asked.isSome && polled.poll.got.isSome

/-- **The entry after a poll** is that of the run it gets; otherwise the run under
way stays, or is no longer looked at. -/
theorem Entry.after_cases (config : Config) (entry : Entry) (poll : Poll) :
    (∃ signal run, entry.inFlight poll = false ∧ entry.observes config poll = some signal ∧
      entry.wants signal = true ∧ poll.got = some run ∧
      (entry.polled config poll).gets = true ∧
      entry.after config poll = {
        lastRunId := some run
        activeRunId := some run
        lastRunTime := poll.reading.later
        lastErrorSignature := extractErrorSignature signal }) ∨
    ((entry.polled config poll).gets = false ∧
      (entry.inFlight poll = true ∧ entry.asks config poll = none ∧
          entry.after config poll = entry ∨
        entry.inFlight poll = false ∧
          entry.after config poll = { entry with activeRunId := none })) := by
  unfold Entry.after Polled.gets Entry.polled
  by_cases hflight : entry.inFlight poll = true
  · have hasks : entry.asks config poll = none := by
      simp [Entry.asks, Entry.observes, hflight]
    rw [if_pos hflight, hasks]
    exact .inr ⟨rfl, .inl ⟨hflight, rfl, rfl⟩⟩
  · rw [if_neg hflight]
    rw [Bool.not_eq_true] at hflight
    cases hwants : (entry.observes config poll).filter entry.wants with
    | none =>
      have hasks : entry.asks config poll = none := by rw [Entry.asks, hwants, Option.map_none]
      rw [hasks]
      exact .inr ⟨rfl, .inr ⟨hflight, rfl⟩⟩
    | some signal =>
      obtain ⟨hobserves, hwanted⟩ := Option.filter_eq_some_iff.mp hwants
      cases hgot : poll.got with
      | none => exact .inr ⟨Bool.and_false _, .inr ⟨hflight, rfl⟩⟩
      | some run =>
        refine .inl ⟨signal, run, hflight, hobserves, hwanted, rfl, ?_, rfl⟩
        rw [Entry.asks, hwants]
        rfl

end

section

variable {config : Config} {w v : World} {labels : List Label} {trail : List Polled}

theorem World.run_induction {motive : World → List Polled → Prop} (hfirst : motive w [])
    (hstep : ∀ u before label v polls, motive u before →
      u.step config label = some (v, polls) → motive v (before ++ polls))
    (hrun : w.run config labels = some (v, trail)) : motive v trail := by
  suffices h : ∀ labels before u v trail, motive u before →
      World.run config u labels = some (v, trail) → motive v (before ++ trail) from
    h labels [] w v trail hfirst hrun
  intro labels
  induction labels with
  | nil =>
    intro before u v trail hu hrun
    obtain ⟨rfl, rfl⟩ := Prod.mk.inj (Option.some.inj hrun)
    rwa [List.append_nil]
  | cons label labels ih =>
    intro before u v trail hu hrun
    obtain ⟨⟨u', polls⟩, hlabel, hrest⟩ := Option.bind_eq_some_iff.mp hrun
    obtain ⟨⟨v', later⟩, hlater, heq⟩ := Option.map_eq_some_iff.mp hrest
    obtain ⟨rfl, rfl⟩ := Prod.mk.inj heq
    rw [← List.append_assoc]
    exact ih _ u' _ _ (hstep u before label u' polls hu hlabel) hlater

theorem World.step_cases {label : Label} {polls : List Polled}
    (h : w.step config label = some (v, polls)) :
    (polls = [] ∧ v.dedup = w.dedup ∧ v.targets = w.targets ∧
      (v.pending = w.pending ∨ v.pending = w.targets) ∧
      (v.runs = w.runs ∨
        (∃ status, v.runs = w.runs ++ [{ createdFor := none, status }]) ∨
        ∃ i old status, w.statusOf i = some old ∧ (old.final = true → status.final = true) ∧
          v.runs = w.runs.modify i fun r => { r with status })) ∨
    ∃ reading answer target pending, label = .poll reading answer ∧
      w.pending = target :: pending ∧
      polls = [(w.dedup target.key).polled config (w.pollOf target reading answer)] ∧
      v = { w with
        pending
        dedup := Keyed.cellsAfter (Entry.after config) (·.target.key) w.dedup
          (w.pollOf target reading answer)
        runs := if ((w.dedup target.key).asks config (w.pollOf target reading answer)).isSome then
            w.runsAfter target answer
          else w.runs } := by
  cases label with
  | tick =>
    simp only [World.step] at h
    split at h
    · cases h
      exact .inl ⟨rfl, rfl, rfl, .inr rfl, .inl rfl⟩
    · cases h
  | poll reading answer =>
    simp only [World.step] at h
    split at h
    · cases h
    · next target pending hpending =>
      cases h
      exact .inr ⟨reading, answer, target, pending, rfl, hpending, rfl, rfl⟩
  | report i status =>
    simp only [World.step] at h
    split at h
    · next old hold =>
      split at h
      · cases h
      · next hfinal =>
        cases h
        refine .inl ⟨rfl, rfl, rfl, .inl rfl, .inr (.inr ⟨i, old, status, hold, ?_, rfl⟩)⟩
        simpa using hfinal
    · cases h
  | launch status =>
    cases h
    exact .inl ⟨rfl, rfl, rfl, .inl rfl, .inr (.inl ⟨status, rfl⟩)⟩

/-- The entries and the trail are those of the polls made. -/
structure Traced (config : Config) (targets : List WatchTarget) (w : World)
    (trail : List Polled) : Prop where
  same : w.targets = targets
  pending : ∀ target ∈ w.pending, target ∈ targets
  polled : ∀ polled ∈ trail, polled.poll.target ∈ targets
  dedup : w.dedup =
    Keyed.play (Entry.after config) (·.target.key) (fun _ => {}) (trail.map Polled.poll)
  answers : ∀ key, (trail.filter fun polled => polled.poll.target.key = key) =
    Keyed.answers (Entry.after config) (Entry.polled config) {}
      ((trail.map Polled.poll).filter fun poll => poll.target.key = key)

variable {targets : List WatchTarget}

theorem traced_run (hrun : World.run config { targets } labels = some (w, trail)) :
    Traced config targets w trail := by
  refine World.run_induction ⟨rfl, fun _ hmem => absurd hmem List.not_mem_nil,
    fun _ hmem => absurd hmem List.not_mem_nil, rfl, fun _ => rfl⟩ ?_ hrun
  intro u before label v polls h hstep
  obtain ⟨rfl, hdedup, htargets, hpending, -⟩ | ⟨reading, answer, target, pending, -, hpending,
    rfl, rfl⟩ := World.step_cases hstep
  · rw [List.append_nil]
    refine ⟨htargets.trans h.same, fun other hmem => ?_, h.polled, hdedup.trans h.dedup,
      h.answers⟩
    obtain hpending | hpending := hpending
    · exact h.pending other (hpending ▸ hmem)
    · exact h.same ▸ hpending ▸ hmem
  · have htarget : target ∈ targets := h.pending target (by simp [hpending])
    have hentry : ∀ key, u.dedup key =
        ((before.map Polled.poll).filter fun poll => poll.target.key = key).foldl
          (Entry.after config) {} := by
      intro key
      rw [h.dedup, Keyed.play_apply]
    refine ⟨h.same, fun other hmem => h.pending other (by simp [hpending, hmem]), ?_, ?_, ?_⟩
    · intro polled hmem
      obtain hmem | hmem := List.mem_append.mp hmem
      · exact h.polled polled hmem
      · obtain rfl := List.mem_singleton.mp hmem
        exact htarget
    · rw [List.map_append, Keyed.play_append, ← h.dedup]
      rfl
    · intro key
      rw [List.filter_append, List.map_append, List.filter_append, Keyed.answers_append,
        ← h.answers key, ← hentry key]
      congr 1
      by_cases hkey : target.key = key
      · subst hkey
        simp [Entry.polled, World.pollOf, Keyed.answers]
      · simp [Entry.polled, World.pollOf, Keyed.answers, hkey]

def lastRun (key : String × String) (trail : List Polled) : Option Polled :=
  ((trail.filter fun polled => polled.poll.target.key = key).filter Polled.gets).getLast?

structure Entry.Tells (entry : Entry) (last : Option Polled) : Prop where
  run : entry.lastRunId = last.bind fun polled => polled.poll.got
  time : entry.lastRunTime = last.elim 0 fun polled => polled.poll.reading.later
  signature : ∀ polled ∈ last, ∃ signal, polled.observed = some signal ∧
    entry.lastErrorSignature = extractErrorSignature signal
  active : entry.activeRunId = none ∨ entry.activeRunId = entry.lastRunId

theorem tells_answers (config : Config) (polls : List Poll) :
    (polls.foldl (Entry.after config) {}).Tells
      ((Keyed.answers (Entry.after config) (Entry.polled config) {} polls).filter
        Polled.gets).getLast? := by
  induction polls using List.reverseRecOn with
  | nil => exact ⟨rfl, rfl, fun _ h => absurd h (by simp [Keyed.answers]), .inl rfl⟩
  | append_singleton polls poll ih =>
    rw [List.foldl_append, Keyed.answers_append, List.filter_append, List.foldl_cons,
      List.foldl_nil, Keyed.answers, Keyed.answers]
    generalize polls.foldl (Entry.after config) {} = entry at ih ⊢
    obtain ⟨signal, run, -, hobserves, -, hgot, hgets, hafter⟩ | ⟨hgets, hafter⟩ :=
      entry.after_cases config poll
    · rw [List.filter_cons_of_pos hgets, List.filter_nil, List.getLast?_concat, hafter]
      refine ⟨hgot.symm, rfl, fun polled hpolled => ?_, .inr rfl⟩
      obtain rfl := Option.some.inj hpolled
      exact ⟨signal, hobserves, rfl⟩
    · rw [List.filter_cons_of_neg (by simp [hgets]), List.filter_nil, List.append_nil]
      obtain ⟨-, -, hafter⟩ | ⟨-, hafter⟩ := hafter
      · rwa [hafter]
      · rw [hafter]
        exact ⟨ih.run, ih.time, ih.signature, .inl rfl⟩

theorem Traced.tells (h : Traced config targets w trail) (key : String × String) :
    (w.dedup key).Tells (lastRun key trail) := by
  rw [lastRun, h.answers key, h.dedup, Keyed.play_apply]
  exact tells_answers config _

end

section

variable {config : Config} {w v : World} {labels : List Label} {trail : List Polled}

def Held (w : World) : Prop :=
  ∀ i run target, w.runs[i]? = some run → run.createdFor = some target →
    run.status.final = false → (w.dedup target.key).activeRunId = some i

theorem Status.final_of_settled {status : Status} (h : status.settled = true) :
    status.final = true := by
  cases status <;> first | rfl | cases h

variable {reading : Reading} {answer : Answer} {target : WatchTarget}

theorem Held.none_of_not_inFlight (h : Held w)
    (hflight : (w.dedup target.key).inFlight (w.pollOf target reading answer) = false) :
    ∀ (i : Nat) run other, w.runs[i]? = some run → run.createdFor = some other →
      other.key = target.key → run.status.final = true := by
  intro i run other hrun hfor hkey
  by_contra hopen
  rw [Bool.not_eq_true] at hopen
  have hactive := h i run other hrun hfor hopen
  rw [hkey] at hactive
  have hstatus : (w.pollOf target reading answer).activeStatus = some run.status := by
    simp [World.pollOf, hactive, World.statusOf, hrun]
  rw [Entry.inFlight, hactive, hstatus] at hflight
  have hsettled : run.status.settled = true := by
    simp only [Option.isSome_some, Option.any_some, Bool.true_and, Bool.or_eq_false_iff,
      Bool.not_eq_false'] at hflight
    exact hflight.2
  rw [Status.final_of_settled hsettled] at hopen
  cases hopen

theorem World.runs_of_not_gets
    (h : ((w.dedup target.key).polled config (w.pollOf target reading answer)).gets = false) :
    (if ((w.dedup target.key).asks config (w.pollOf target reading answer)).isSome then
      w.runsAfter target answer else w.runs) = w.runs := by
  split
  · next hasked =>
    cases answer with
    | created status | attached run =>
      have hgets := Bool.and_eq_true_iff.mpr ⟨hasked, rfl⟩
      exact absurd (hgets.symm.trans h) (by decide)
    | raises => rfl
  · rfl

theorem World.run_of_runsAfter {i : Nat} {run : Run}
    (h : (w.runsAfter target answer)[i]? = some run) :
    w.runs[i]? = some run ∨ w.answered answer = some i ∧ run.createdFor = some target := by
  cases answer with
  | created status =>
    rw [World.runsAfter, List.getElem?_append] at h
    split at h
    · exact .inl h
    · obtain ⟨hzero, heq⟩ := List.getElem?_eq_some_iff.mp h
      have hi : i = w.runs.length := by
        simp only [List.length_singleton] at hzero
        omega
      subst hi
      refine .inr ⟨rfl, ?_⟩
      simp at heq
      rw [← heq]
  | attached _ | raises => exact .inl h

/-- **Every step** leaves the open runs of the watcher active. -/
theorem held_step {label : Label} {polls : List Polled} (h : Held w)
    (hstep : w.step config label = some (v, polls)) : Held v := by
  obtain ⟨-, hdedup, -, -, hruns⟩ | ⟨reading, answer, target, pending, -, -, -, rfl⟩ :=
    World.step_cases hstep
  · intro i run target hrun hfor hopen
    rw [hdedup]
    obtain hruns | ⟨status, hruns⟩ | ⟨j, old, status, hold, hfinal, hruns⟩ := hruns
    · exact h i run target (hruns ▸ hrun) hfor hopen
    · rw [hruns, List.getElem?_append] at hrun
      split at hrun
      · exact h i run target hrun hfor hopen
      · obtain ⟨_, heq⟩ := List.getElem?_eq_some_iff.mp hrun
        simp only [List.getElem_singleton] at heq
        rw [← heq] at hfor
        cases hfor
    · rw [hruns, List.getElem?_modify] at hrun
      obtain ⟨run', hrun', rfl⟩ := Option.map_eq_some_iff.mp hrun
      by_cases hij : j = i
      · subst hij
        rw [if_pos rfl] at hfor hopen
        refine h j run' target hrun' hfor ?_
        rw [World.statusOf, hrun', Option.map_some, Option.some.injEq] at hold
        rw [hold]
        by_contra hclosed
        rw [hfinal (by simpa using hclosed)] at hopen
        cases hopen
      · rw [if_neg hij] at hfor hopen
        exact h i run' target hrun' hfor hopen
  · set poll := w.pollOf target reading answer with hpoll
    intro i run other hrun hfor hopen
    have hother : other.key ≠ target.key → w.runs[i]? = some run →
        Keyed.cellsAfter (Entry.after config) (·.target.key) w.dedup poll other.key =
          w.dedup other.key ∧ (w.dedup other.key).activeRunId = some i := fun hne hold =>
      ⟨Function.update_of_ne hne _ _, h i run other hold hfor hopen⟩
    have hsame : other.key = target.key →
        Keyed.cellsAfter (Entry.after config) (·.target.key) w.dedup poll other.key =
          (w.dedup target.key).after config poll := by
      intro heq
      rw [heq]
      exact Function.update_self _ _ _
    show (Keyed.cellsAfter (Entry.after config) (·.target.key) w.dedup poll
      other.key).activeRunId = some i
    obtain ⟨signal, got, hflight, -, -, hgot, hgets, hafter⟩ | ⟨hgets, hafter⟩ :=
      (w.dedup target.key).after_cases config poll
    · have hasked : ((w.dedup target.key).asks config poll).isSome = true :=
        (Bool.and_eq_true_iff.mp hgets).1
      simp only [if_pos hasked] at hrun
      obtain hold | ⟨hanswered, hcreated⟩ := World.run_of_runsAfter hrun
      · have hne : other.key ≠ target.key := by
          intro heq
          rw [h.none_of_not_inFlight hflight i run other hold hfor heq] at hopen
          cases hopen
        rw [(hother hne hold).1]
        exact (hother hne hold).2
      · obtain rfl := Option.some.inj (hcreated.symm.trans hfor)
        rw [hsame rfl, hafter]
        exact hgot.symm.trans hanswered
    · rw [World.runs_of_not_gets hgets] at hrun
      by_cases heq : other.key = target.key
      · have hactive := h i run other hrun hfor hopen
        rw [hsame heq]
        obtain ⟨-, -, hafter⟩ | ⟨hflight, -⟩ := hafter
        · rw [hafter, ← heq]
          exact hactive
        · rw [h.none_of_not_inFlight hflight i run other hrun hfor heq] at hopen
          cases hopen
      · rw [(hother heq hrun).1]
        exact (hother heq hrun).2

theorem held_run {targets : List WatchTarget}
    (hrun : World.run config { targets } labels = some (w, trail)) : Held w := by
  refine World.run_induction (motive := fun w _ => Held w) (fun i run target h => ?_) ?_ hrun
  · simp at h
  · exact fun u _ label v polls h hstep => held_step h hstep

end

section

variable {config : Config} {left right : Entry} {p q : Poll}

/-- Entries that differ in the numbers of their runs only. -/
structure Entry.Alike (left right : Entry) : Prop where
  run : left.lastRunId.isSome = right.lastRunId.isSome
  time : left.lastRunTime = right.lastRunTime
  signature : left.lastErrorSignature = right.lastErrorSignature
  active : left.activeRunId.isSome = right.activeRunId.isSome

def Poll.reads (poll : Poll) : WatchTarget × Reading × Option Status × Bool :=
  (poll.target, poll.reading, poll.activeStatus, poll.got.isSome)

section

variable (h : left.Alike right)

include h

theorem Entry.Alike.inFlight (hreads : p.reads = q.reads) : left.inFlight p = right.inFlight q := by
  simp only [Poll.reads, Prod.mk.injEq] at hreads
  rw [Entry.inFlight, Entry.inFlight, h.active, hreads.2.1, hreads.2.2.1]

/-- Polls that read the same of entries that are alike see the same, and want to
act on the same. -/
theorem Entry.Alike.wanted (hreads : p.reads = q.reads) :
    (left.observes config p).filter left.wants =
      (right.observes config q).filter right.wants := by
  have hflight := h.inFlight hreads
  simp only [Poll.reads, Prod.mk.injEq] at hreads
  have hwants : left.wants = right.wants := by
    funext signal
    rw [Entry.wants, Entry.wants, h.signature, h.run]
  rw [Entry.observes, Entry.observes, hflight, Entry.cooling, Entry.cooling, h.time, hreads.1,
    hreads.2.1, hwants]

theorem Entry.Alike.asks (hreads : p.reads = q.reads) :
    left.asks config p = right.asks config q := by
  have hwanted : (left.observes config p).filter left.wants =
      (right.observes config q).filter right.wants := h.wanted hreads
  simp only [Poll.reads, Prod.mk.injEq] at hreads
  rw [Entry.asks, Entry.asks, hwanted, hreads.1, hreads.2.1]

theorem Entry.Alike.after (hreads : p.reads = q.reads) :
    (left.after config p).Alike (right.after config q) := by
  have hflight := h.inFlight hreads
  have hwanted : (left.observes config p).filter left.wants =
      (right.observes config q).filter right.wants := h.wanted hreads
  simp only [Poll.reads, Prod.mk.injEq] at hreads
  obtain ⟨-, hreading, -, hgot⟩ := hreads
  rw [Entry.after, Entry.after, hflight, hwanted]
  split
  · exact h
  · cases (right.observes config q).filter right.wants with
    | none => exact ⟨h.run, h.time, h.signature, rfl⟩
    | some signal =>
      cases hp : p.got <;> cases hq : q.got
      · exact ⟨h.run, h.time, h.signature, rfl⟩
      · simp [hp, hq] at hgot
      · simp [hp, hq] at hgot
      · exact ⟨rfl, congrArg Reading.later hreading, rfl, rfl⟩

/-- Cells that are alike and read the same ask for the same. -/
theorem asked_of_reads {ps qs : List Poll}
    (hreads : ps.map Poll.reads = qs.map Poll.reads) :
    (Keyed.answers (Entry.after config) (Entry.polled config) left ps).map Polled.asked =
      (Keyed.answers (Entry.after config) (Entry.polled config) right qs).map Polled.asked := by
  induction ps generalizing left right qs with
  | nil =>
    rw [List.map_nil, eq_comm, List.map_eq_nil_iff] at hreads
    rw [hreads]
    rfl
  | cons p ps ih =>
    cases qs with
    | nil => simp at hreads
    | cons q qs =>
      obtain ⟨hhead, htail⟩ := List.cons.inj hreads
      exact congrArg₂ List.cons (h.asks hhead) (ih (h.after hhead) htail)

end

def pollsOf (target : WatchTarget) (trail : List Polled) : List Polled :=
  trail.filter fun polled => polled.poll.target = target

def Unshared (targets : List WatchTarget) (target : WatchTarget) : Prop :=
  ∀ other ∈ targets, other.key = target.key → other = target

theorem Traced.pollsOf_eq {targets : List WatchTarget} {w : World} {trail : List Polled}
    (h : Traced config targets w trail) {target : WatchTarget} (hown : Unshared targets target) :
    pollsOf target trail = Keyed.answers (Entry.after config) (Entry.polled config) {}
      ((pollsOf target trail).map Polled.poll) := by
  have hsame : pollsOf target trail =
      trail.filter fun polled => polled.poll.target.key = target.key := by
    refine List.filter_congr fun polled hmem => ?_
    rw [decide_eq_decide]
    exact ⟨fun heq => congrArg WatchTarget.key heq, hown _ (h.polled polled hmem)⟩
  rw [hsame]
  conv => lhs; rw [h.answers target.key]
  rw [List.filter_map]
  rfl

end

def Asks (w : World) (reading : Reading) (answer : Answer)
    (target : WatchTarget) : Prop :=
  ∃ v polled, w.step config (.poll reading answer) = some (v, [polled]) ∧
    polled.poll.target = target ∧ polled.asked.isSome = true ∧ v.runs = w.runsAfter target answer

theorem asks_of_gates {config : Config} {targets : List WatchTarget} {w : World}
    {trail : List Polled} (h : Traced config targets w trail) {reading : Reading}
    {answer : Answer} {target : WatchTarget} {pending : List WatchTarget} {signal : Signal}
    (hpending : w.pending = target :: pending) (hlookup : reading.lookup = true)
    (hsignal : reading.signal = some signal)
    (hactionable : kubernetesSignalIsActionable signal = true)
    (hlast : ∀ last ∈ lastRun target.key trail,
      (∀ status ∈ last.poll.got.bind w.statusOf, status.settled = true) ∧
        cooldown config target ≤ reading.now - last.poll.reading.later ∧
        ∀ old ∈ last.observed, extractErrorSignature signal ≠ extractErrorSignature old) :
    Asks config w reading answer target := by
  have htells := h.tells target.key
  set entry := w.dedup target.key with hentry
  set poll := w.pollOf target reading answer with hpoll
  have hsettled : ∀ status ∈ poll.activeStatus, status.settled = true := by
    intro status hstatus
    obtain ⟨i, hactive, hstatus⟩ := Option.bind_eq_some_iff.mp hstatus
    have hlastRun : entry.lastRunId = some i := by
      obtain hnone | hsame := htells.active
      · rw [hnone] at hactive
        cases hactive
      · exact hsame.symm.trans hactive
    obtain ⟨last, hrun, hgot⟩ := Option.bind_eq_some_iff.mp (htells.run.symm.trans hlastRun)
    exact (hlast last hrun).1 status (Option.bind_eq_some_iff.mpr ⟨i, hgot, hstatus⟩)
  have hflight : entry.inFlight poll = false := by
    rw [Entry.inFlight, show poll.reading.lookup = true from hlookup]
    cases hstatus : poll.activeStatus with
    | none => exact Bool.and_false _
    | some status => simp [hsettled status hstatus]
  have hcooling : entry.cooling config poll = false := by
    rw [Entry.cooling, htells.time]
    cases hrun : lastRun target.key trail with
    | none => simp
    | some last =>
      have helapsed := (hlast last hrun).2.1
      have hnot : ¬ poll.reading.now - last.poll.reading.later < cooldown config poll.target :=
        Rat.not_lt.mpr helapsed
      simp [hnot]
  have hwants : entry.wants signal = true := by
    rw [Entry.wants, hactionable, Bool.true_and, Bool.not_eq_true', Bool.and_eq_false_iff,
      decide_eq_false_iff_not]
    cases hrun : lastRun target.key trail with
    | none => exact .inr (by rw [htells.run, hrun]; rfl)
    | some last =>
      obtain ⟨old, hold, hsame⟩ := htells.signature last hrun
      exact .inl fun heq => (hlast last hrun).2.2 old hold (heq.trans hsame)
  have hasks : (entry.asks config poll).isSome = true := by
    have hobserves : entry.observes config poll = some signal := by
      rw [Entry.observes, hflight, hcooling]
      exact hsignal
    rw [Entry.asks, hobserves, Option.filter_some_pos hwants]
    rfl
  refine ⟨{ w with
    pending
    dedup := Keyed.cellsAfter (Entry.after config) (·.target.key) w.dedup poll
    runs := w.runsAfter target answer }, entry.polled config poll, ?_, rfl, hasks, rfl⟩
  have hruns : (if (entry.asks config poll).isSome then w.runsAfter target answer else w.runs) =
      w.runsAfter target answer := if_pos hasks
  rw [World.step, hpending, ← hruns]
  rfl

/-- **The gates** hold in every run, and what is asked for a target that shares its key with no
other depends on its own polls alone. -/
theorem gates_hold (targets : List WatchTarget) (labels : List Label)
    (w : World) (trail : List Polled)
    (hrun : World.run config { targets } labels = some (w, trail)) :
    (∀ (i j : Nat) run run' target target', w.runs[i]? = some run → w.runs[j]? = some run' →
      run.createdFor = some target → run'.createdFor = some target' →
      target.key = target'.key → run.status.final = false → run'.status.final = false →
      i = j) ∧
    (∀ reading answer target pending signal, w.pending = target :: pending →
      reading.lookup = true → reading.signal = some signal →
      kubernetesSignalIsActionable signal = true →
      (∀ last ∈ lastRun target.key trail,
        (∀ status ∈ last.poll.got.bind w.statusOf, status.settled = true) ∧
          cooldown config target ≤ reading.now - last.poll.reading.later ∧
          ∀ old ∈ last.observed, extractErrorSignature signal ≠ extractErrorSignature old) →
      Asks config w reading answer target) ∧
    ∀ target, Unshared targets target → ∀ targets' labels' w' trail',
      World.run config { targets := targets' } labels' = some (w', trail') →
      Unshared targets' target →
      (pollsOf target trail).map (·.poll.reads) = (pollsOf target trail').map (·.poll.reads) →
      (pollsOf target trail).map Polled.asked = (pollsOf target trail').map Polled.asked := by
  have htraced := traced_run hrun
  refine ⟨fun i j run run' target target' hi hj hfor hfor' hkey hopen hopen' => ?_, ?_, ?_⟩
  · have hheld := held_run hrun
    have hactive := hheld i run target hi hfor hopen
    rw [hkey, hheld j run' target' hj hfor' hopen'] at hactive
    exact (Option.some.inj hactive).symm
  · intro reading answer target pending signal hpending hlookup hsignal hactionable hlast
    exact asks_of_gates htraced hpending hlookup hsignal hactionable hlast
  · intro target hown targets' labels' w' trail' hrun' hown' hreads
    rw [htraced.pollsOf_eq hown, (traced_run hrun').pollsOf_eq hown']
    refine asked_of_reads ⟨rfl, rfl, rfl, rfl⟩ ?_
    rw [List.map_map, List.map_map]
    exact hreads

def crashing (containerStatus : String) : Signal where
  rolloutStatus := "degraded"
  pods := [{ phase := some "Running", restarts := 3, containerStatus := some containerStatus }]

def recovered : Signal where
  rolloutStatus := "healthy"
  pods := [{ phase := some "Running", ready := true, containerStatus := some "Running" }]

def oneTarget : World := { targets := [{ deploymentName := "api" }] }

def crashedOnce : List Label :=
  [.tick, .poll { now := 1, signal := some (crashing "CrashLoopBackOff"), later := 2 }
    (.created .queued), .report 0 .completed]

theorem gates_hold_other_failure :
    ∃ w trail, oneTarget.run { name := "prod" } (crashedOnce ++ [.tick]) = some (w, trail) ∧
      Asks { name := "prod" } w
        { now := 400, signal := some (crashing "OOMKilled"), later := 401 } (.created .queued)
        { deploymentName := "api" } := by
  obtain ⟨⟨w, trail⟩, hrun⟩ := Option.isSome_iff_exists.mp
    (show (oneTarget.run { name := "prod" } (crashedOnce ++ [.tick])).isSome = true by
      decide +kernel)
  refine ⟨w, trail, hrun, ?_⟩
  have hstate : ∀ x ∈ oneTarget.run { name := "prod" } (crashedOnce ++ [.tick]),
      x.1.pending = [{ deploymentName := "api" }] ∧
      ∀ last ∈ lastRun ("default", "api") x.2,
        (∀ status ∈ last.poll.got.bind x.1.statusOf, status.settled = true) ∧
          (300 : Rat) ≤ 400 - last.poll.reading.later ∧
          ∀ old ∈ last.observed,
            extractErrorSignature (crashing "OOMKilled") ≠ extractErrorSignature old := by
    decide +kernel
  obtain ⟨hpending, hlast⟩ := hstate (w, trail) hrun
  exact (gates_hold _ _ _ w trail hrun).2.1 _ _ _ [] _ hpending rfl rfl (by decide +kernel) hlast

/-- The last run is over, the cooldown too, and the deployment was seen healthy
since; it fails as before, and no run is created. -/
theorem recurring_incident_starves :
    ¬ ∀ (config : Config) (targets : List WatchTarget) (labels : List Label) (w : World)
      (trail : List Polled), World.run config { targets } labels = some (w, trail) →
      ∀ reading answer target pending signal last status, w.pending = target :: pending →
        reading.lookup = true → reading.signal = some signal →
        kubernetesSignalIsActionable signal = true →
        lastRun target.key trail = some last → last.poll.got.bind w.statusOf = some status →
        status.final = true → cooldown config target ≤ reading.now - last.poll.reading.later →
        (∃ before after, trail = before ++ last :: after ∧ ∃ polled ∈ after,
          polled.poll.target = target ∧ ∃ seen, polled.observed = some seen ∧
            kubernetesSignalIsActionable seen = false) →
        Asks config w reading answer target := by
  intro hclaim
  have hsome : (oneTarget.run { name := "prod" } (crashedOnce ++
      [.tick, .poll { now := 400, signal := some recovered, later := 400 } .raises,
        .tick])).isSome = true := by decide +kernel
  obtain ⟨⟨w, trail⟩, hrun⟩ := Option.isSome_iff_exists.mp hsome
  have hstate : ∀ x ∈ oneTarget.run { name := "prod" } (crashedOnce ++
      [.tick, .poll { now := 400, signal := some recovered, later := 400 } .raises, .tick]),
      x.1.pending = [{ deploymentName := "api" }] ∧ x.2.length = 2 ∧
      ((lastRun ("default", "api") x.2).map fun last => last.poll.got.bind x.1.statusOf) =
        some (some .completed) ∧
      x.2[0]? = lastRun ("default", "api") x.2 ∧
      ((lastRun ("default", "api") x.2).all fun last =>
        decide ((300 : Rat) ≤ 800 - last.poll.reading.later)) = true ∧
      (x.2[1]?.map fun polled => (polled.poll.target, polled.observed)) =
        some ({ deploymentName := "api" }, some recovered) ∧
      ∀ y ∈ x.1.step { name := "prod" }
        (.poll { now := 800, signal := some (crashing "CrashLoopBackOff"), later := 801 }
          (.created .queued)), ∀ polled ∈ y.2, polled.asked = none := by
    decide +kernel
  obtain ⟨hpending, hlength, hstatus, hfirst, helapsed, hhealthy, hasked⟩ :=
    hstate (w, trail) hrun
  obtain ⟨first, second, rfl⟩ := List.length_eq_two.mp hlength
  have hlast : lastRun ("default", "api") [first, second] = some first := hfirst.symm
  rw [hlast] at hstatus helapsed
  obtain ⟨htarget, hobserved⟩ := Prod.mk.inj (Option.some.inj hhealthy)
  obtain ⟨v, polled, hstep, -, hasks, -⟩ := hclaim _ _ _ w _ hrun
    { now := 800, signal := some (crashing "CrashLoopBackOff"), later := 801 } (.created .queued)
    _ [] _ first .completed hpending rfl rfl (by decide +kernel) hlast (Option.some.inj hstatus)
    rfl (of_decide_eq_true helapsed)
    ⟨[], [second], rfl, second, List.mem_singleton_self _, htarget, recovered, hobserved,
      by decide +kernel⟩
  rw [hasked _ hstep polled (List.mem_singleton_self _)] at hasks
  cases hasks

end OrbitalMesh.Watchers.Kubernetes
