import OrbitalMesh.Actuators.Kubernetes
import OrbitalMesh.ControlPlane.KillSwitch

/-!
# Live execution of runs

`create_run` copies the configuration into the queue, and the worker builds its engine
from the copy: the evaluation and, in the native modes, the actuator read the copy.  The
kill switch disables live execution, and clears the namespaces, in the configuration
itself.  A run that was copied before is out of its reach.
-/

namespace OrbitalMesh.LiveExecution

open OrbitalMesh.Actuators
open OrbitalMesh.Decision (TextReading)

/-- The members of `RuntimeConfig` that are read here. -/
structure RuntimeConfig where
  kubernetes : KubernetesConfig
  evaluationMode : Json
  orchestrationMode : Json

/-- `RuntimeConfig()`, as far as a `KubernetesAdapter()` reads it. -/
def defaultKubernetes : KubernetesConfig where
  kubernetesLiveExecutionEnabled := false
  kubernetesAllowedContexts := []
  kubernetesAllowedNamespaces := []
  kubectlCommand := "kubectl"
  kubernetesRolloutTimeoutSeconds := 120

/-- `replace(self.config, ...)`, for the payload of a run. -/
def runConfig (config : RuntimeConfig) (payload : Dict) : RuntimeConfig :=
  { config with
    evaluationMode := (payload.get? "evaluation_mode").getD config.evaluationMode
    orchestrationMode := (payload.get? "orchestration_mode").getD config.orchestrationMode }

inductive AdapterKind where
  | hermesCli
  | gooseCli
  | nativeHermes
  | nativeGoose

/-- What `build_readiness` says of the commands. -/
structure Readiness where
  hermes : Bool
  goose : Bool

/-- `_build_adapter`; a mode that is no text has no `lower`. -/
def buildAdapter (readiness : Readiness) (mode : Json) : Option AdapterKind :=
  match if truthy mode then mode else .str "native_hermes" with
  | .str text =>
    let mode := String.ofList (text.toList.map Char.toLower)
    if mode = "goose" then some .gooseCli
    else if mode = "hermes" then some .hermesCli
    else if mode = "native" ∨ mode = "native_hermes" then some .nativeHermes
    else if mode = "native_goose" then some .nativeGoose
    else if readiness.hermes then some .hermesCli
    else if readiness.goose then some .gooseCli
    else some .nativeHermes
  | _ => none

def AdapterKind.native : AdapterKind → Bool
  | .nativeHermes | .nativeGoose => true
  | .hermesCli | .gooseCli => false

/-- The configuration of the `KubernetesAdapter` that acts.  The bridges behind the
commands build one of their own. -/
def AdapterKind.kubernetes (kind : AdapterKind) (config : RuntimeConfig) : KubernetesConfig :=
  if kind.native then config.kubernetes else defaultKubernetes

/-- The action that `execute_decision` calls. -/
def actionOf : String → Action
  | "rollback_deployment" => .rollbackDeployment
  | "restart_pod" => .restartPod
  | "scale_deployment" => .scaleDeployment
  | "cordon_node" => .cordonNode
  | "drain_node" => .drainNode
  | _ => .restartDeployment

def liveExecutionEnabled (config : RuntimeConfig) (system : String) : Bool :=
  if system = "kubernetes_service" then config.kubernetes.kubernetesLiveExecutionEnabled
  else false

/-- What `create_run` queues. -/
structure QueuedRun where
  runId : Nat
  config : RuntimeConfig

/-- What is read of an evaluation. -/
structure Evaluation where
  system : String
  liveExecution : Bool
  execute : Bool

/-- A command of an action that is still to be started. -/
structure Pending where
  action : Action
  line : Command
deriving DecidableEq

structure Working where
  run : QueuedRun
  adapter : AdapterKind
  evaluation : Option Evaluation := none
  executing : Bool := false
  pending : List Pending := []

/-- The configuration, the runs that are created, queued and worked on, and the open calls of
`apply_kill_switch`. -/
structure State where
  config : RuntimeConfig
  created : Nat := 0
  creating : List QueuedRun := []
  queue : List QueuedRun := []
  working : List Working := []
  switching : List (List String) := []

/-- What happens, of what the law speaks about. -/
inductive Event where
  /-- an action is called: what its evaluation said of live execution, and what is used -/
  | acted (runId : Nat) (evaluated used : Bool)
  | issued (runId : Nat) (command : Pending)
  /-- `apply_kill_switch` has returned -/
  | switched (actions : List String)
deriving DecidableEq

inductive Op where
  /-- `create_run`, up to the copy -/
  | createRun (payload : Dict)
  /-- the run is put into the queue -/
  | putNowait (runId : Nat)
  /-- the run is not admitted, or the queue is full -/
  | refuse (runId : Nat)
  /-- a worker takes the next run and builds its engine -/
  | get (readiness : Readiness)
  /-- `_record_decision_and_evaluation` -/
  | evaluate (runId : Nat) (system : String) (execute : Bool)
  /-- `orchestrator.execute`, of a decision for the cluster -/
  | execute (runId : Nat) (action : String) (parameters : KubernetesParameters)
      (cluster : Cluster)
  /-- the next command of the action is started -/
  | kubectl (runId : Nat)
  /-- the execution is over, or the run has ended without one -/
  | finalizeRun (runId : Nat)
  /-- `apply_kill_switch` changes the configuration -/
  | pullKillSwitch (payload : Dict)
  /-- the call at this place returns -/
  | killSwitchReturns (place : Nat)
  /-- the call at this place raises -/
  | killSwitchRaises (place : Nat)

variable (payload : Dict)

def disables : Bool :=
  decide (payload.get? "disable_live_execution" = some (.bool true) ∨
    payload.get? "live_execution_enabled" = some (.bool false))

def clears : Bool :=
  decide (payload.get? "clear_namespace_allowlist" = some (.bool true))

/-- What `apply_kill_switch` changes of the configuration of the cluster. -/
def switchedConfig (config : KubernetesConfig) (payload : Dict) : KubernetesConfig :=
  { config with
    kubernetesLiveExecutionEnabled :=
      if disables payload then false else config.kubernetesLiveExecutionEnabled
    kubernetesAllowedNamespaces :=
      if clears payload then [] else config.kubernetesAllowedNamespaces }

def stopsWatchers : Except PyError Bool :=
  if payload.get? "stop_watchers" = some (.bool true) then .ok true
  else inTexts (valueAt payload "watchers") ["stop", "pause"]

/-- The list `actions` of `apply_kill_switch`. -/
def killSwitchActions : Except PyError (List String) := do
  let stopWatchers ← stopsWatchers payload
  return switchActions stopWatchers (disables payload) (clears payload)
    (decide (payload.get? "force_approval_gate" = some (.bool true)))

def State.change (s : State) (runId : Nat) (f : Working → Option (Working × List Event)) :
    Option (State × List Event) := do
  let working ← s.working.find? (·.run.runId = runId)
  let (changed, events) ← f working
  return ({ s with
    working := s.working.map fun other => if other.run.runId = runId then changed else other },
    events)

/-- `evaluate`, by the run's own services; not once it is executing. -/
def Working.evaluate (system : String) (execute : Bool) (working : Working) :
    Option (Working × List Event) :=
  if working.executing then none
  else some ({ working with
    evaluation := some ⟨system, liveExecutionEnabled working.run.config system, execute⟩ }, [])

/-- `execute`, of a decision for the cluster whose evaluation recommends it. -/
def Working.execute (reading : TextReading) (action : String) (parameters : KubernetesParameters)
    (cluster : Cluster) (working : Working) : Option (Working × List Event) := do
  let evaluation ← working.evaluation
  if working.executing || !evaluation.execute || evaluation.system != "kubernetes_service" then
    none
  else
    let config := working.adapter.kubernetes working.run.config
    let issued := ((actionOf action).call reading config cluster parameters).issued
    some ({ working with executing := true, pending := issued.map (⟨actionOf action, ·⟩) },
      [.acted working.run.runId evaluation.liveExecution config.kubernetesLiveExecutionEnabled])

def Working.kubectl (working : Working) : Option (Working × List Event) :=
  match working.pending with
  | [] => none
  | command :: rest =>
    some ({ working with pending := rest }, [.issued working.run.runId command])

def step (reading : TextReading) (s : State) : Op → Option (State × List Event)
  | .createRun payload =>
    some ({ s with
      created := s.created + 1
      creating := s.creating ++ [⟨s.created, runConfig s.config payload⟩] }, [])
  | .putNowait runId => do
    let run ← s.creating.find? (·.runId = runId)
    return ({ s with
      creating := s.creating.filter (·.runId ≠ runId), queue := s.queue ++ [run] }, [])
  | .refuse runId => some ({ s with creating := s.creating.filter (·.runId ≠ runId) }, [])
  | .get readiness =>
    match s.queue with
    | [] => none
    | run :: rest =>
      match buildAdapter readiness run.config.orchestrationMode with
      | some adapter =>
        some ({ s with queue := rest, working := s.working ++ [{ run, adapter }] }, [])
      | none => some ({ s with queue := rest }, [])
  | .evaluate runId system execute => s.change runId (Working.evaluate system execute)
  | .execute runId action parameters cluster =>
    s.change runId (Working.execute reading action parameters cluster)
  | .kubectl runId => s.change runId Working.kubectl
  | .finalizeRun runId => some ({ s with working := s.working.filter (·.run.runId ≠ runId) }, [])
  | .pullKillSwitch payload =>
    match killSwitchActions payload with
    | .ok actions =>
      some ({ s with
        config := { s.config with
          kubernetes := switchedConfig s.config.kubernetes payload }
        switching := s.switching ++ [actions] }, [])
    | .error _ => some (s, [])
  | .killSwitchReturns place => do
    let actions ← s.switching[place]?
    return ({ s with switching := s.switching.eraseIdx place }, [.switched actions])
  | .killSwitchRaises place => some ({ s with switching := s.switching.eraseIdx place }, [])

def afterContext : List String → List String
  | "--context" :: _ :: arguments => arguments
  | arguments => arguments

/-- Every command changes the cluster but `kubectl rollout status`, which waits. -/
def Pending.mutates (command : Pending) : Bool :=
  (afterContext command.line.arguments).take 2 != ["rollout", "status"]

variable (among : Action → Bool)

def Event.Mutates : Event → Prop
  | .issued _ command => among command.action = true ∧ command.mutates = true
  | _ => False

/-- After a call of `apply_kill_switch` that names this action has returned, no mutation
of these is started. -/
def SilentAfter (name : String) (among : Action → Bool) (trace : List Event) : Prop :=
  ∀ before actions after, trace = before ++ .switched actions :: after → name ∈ actions →
    ∀ event ∈ after, ¬ event.Mutates among

/-- **The switch reaches every run**: after it no mutation is started, or none in a namespace, and
actions use what their evaluation says. -/
structure SwitchReaches (trace : List Event) : Prop where
  disabled : SilentAfter "live_execution_disabled" (fun _ => true) trace
  cleared : SilentAfter "namespace_allowlist_cleared" Action.namespaced trace
  agrees : ∀ runId evaluated used, .acted runId evaluated used ∈ trace → evaluated = used

/-- An action of these gets as far as `kubectl`, for some parameters. -/
structure Acts (config : KubernetesConfig) : Prop where
  live : config.kubernetesLiveExecutionEnabled = true
  command : (Text.splitWords config.kubectlCommand.toList).isOk = true
  contexts : config.kubernetesAllowedContexts ≠ []
  namespaces : ∃ action, among action = true ∧
    (action.namespaced = true → config.kubernetesAllowedNamespaces ≠ [])

def QueuedRun.CanMutate (run : QueuedRun) : Prop :=
  ∃ readiness adapter, buildAdapter readiness run.config.orchestrationMode = some adapter ∧
    Acts among (adapter.kubernetes run.config)

/-- A run that is worked on can come to a mutation: it has not called its action yet, or
has not started the command. -/
def Working.CanMutate (working : Working) : Prop :=
  if working.executing then
    ∃ command ∈ working.pending, among command.action = true ∧ command.mutates = true
  else Acts among (working.adapter.kubernetes working.run.config)

/-- No run that was copied so far can come to a mutation. -/
structure State.Settled (s : State) : Prop where
  creating : ∀ run ∈ s.creating, ¬ run.CanMutate among
  queue : ∀ run ∈ s.queue, ¬ run.CanMutate among
  working : ∀ working ∈ s.working, ¬ working.CanMutate among

/-- When the switch returns, no run that was copied before it can come to a mutation; and a run
is executed in a native mode, or with live execution disabled. -/
def Met (s : State) : Op → Prop
  | .killSwitchReturns place => ∀ actions, s.switching[place]? = some actions →
      ("live_execution_disabled" ∈ actions → s.Settled fun _ => true) ∧
        ("namespace_allowlist_cleared" ∈ actions → s.Settled Action.namespaced)
  | .execute runId _ _ _ => ∀ working ∈ s.working, working.run.runId = runId →
      working.adapter.native = true ∨
        working.run.config.kubernetes.kubernetesLiveExecutionEnabled = false
  | _ => True

/-- The runs whose steps all meet it, with what has happened. -/
inductive Runs (reading : TextReading) (config : RuntimeConfig) : State → List Event → Prop
  | start : Runs reading config { config } []
  | step {s t : State} {trace events : List Event} (op : Op)
      (earlier : Runs reading config s trace) (met : Met s op)
      (taken : step reading s op = some (t, events)) : Runs reading config t (trace ++ events)

section

variable {among : Action → Bool} {config : KubernetesConfig} {payload : Dict}

theorem acts_of_issued {reading : TextReading} {cluster : Cluster}
    {parameters : KubernetesParameters} {action : Action} {line : Command}
    (h : line ∈ (action.call reading config cluster parameters).issued)
    (hamong : among action = true) : Acts among config := by
  obtain ⟨hreaches, -⟩ := mem_issued_call h
  exact
    { live := hreaches.live
      command := hreaches.command
      contexts := List.ne_nil_of_mem hreaches.context
      namespaces := ⟨action, hamong, fun hnamespaced =>
        List.ne_nil_of_mem (hreaches.namespaceName hnamespaced)⟩ }

theorem not_acts_default : ¬ Acts among defaultKubernetes := by
  intro h
  cases h.live

theorem acts_of_adapter {kind : AdapterKind} {copy : RuntimeConfig}
    (h : Acts among (kind.kubernetes copy)) : Acts among copy.kubernetes := by
  unfold AdapterKind.kubernetes at h
  split at h
  · exact h
  · exact absurd h not_acts_default

theorem acts_of_switched (h : Acts among (switchedConfig config payload)) :
    Acts among config where
  live := by
    have hlive := h.live
    unfold switchedConfig at hlive
    split at hlive
    · cases hlive
    · exact hlive
  command := h.command
  contexts := h.contexts
  namespaces := by
    obtain ⟨action, hamong, hnamespaces⟩ := h.namespaces
    refine ⟨action, hamong, fun hnamespaced hempty => hnamespaces hnamespaced ?_⟩
    simp [switchedConfig, hempty]

theorem not_acts_disabled (h : disables payload = true) :
    ¬ Acts among (switchedConfig config payload) := by
  intro hacts
  have hlive := hacts.live
  simp [switchedConfig, h] at hlive

theorem not_acts_cleared (h : clears payload = true) :
    ¬ Acts Action.namespaced (switchedConfig config payload) := by
  intro hacts
  obtain ⟨action, hnamespaced, hnamespaces⟩ := hacts.namespaces
  exact hnamespaces hnamespaced (by simp [switchedConfig, h])

theorem mem_killSwitchActions {actions : List String}
    (h : killSwitchActions payload = .ok actions) :
    ("live_execution_disabled" ∈ actions → disables payload = true) ∧
      ("namespace_allowlist_cleared" ∈ actions → clears payload = true) := by
  obtain ⟨stopWatchers, -, h⟩ := bind_ok h
  cases h
  constructor
  · intro hmem
    by_contra hnot
    rw [Bool.not_eq_true] at hnot
    rw [hnot] at hmem
    revert hmem
    cases stopWatchers <;> cases clears payload <;>
      cases decide (payload.get? "force_approval_gate" = some (.bool true)) <;> decide
  · intro hmem
    by_contra hnot
    rw [Bool.not_eq_true] at hnot
    rw [hnot] at hmem
    revert hmem
    cases stopWatchers <;> cases disables payload <;>
      cases decide (payload.get? "force_approval_gate" = some (.bool true)) <;> decide

end

section

variable {among : Action → Bool} {reading : TextReading} {working working' : Working}
  {events : List Event}

theorem evaluate_keeps {system : String} {execute : Bool}
    (h : working.evaluate system execute = some (working', events))
    (hquiet : ¬ working.CanMutate among) :
    ¬ working'.CanMutate among ∧ ∀ event ∈ events, ¬ event.Mutates among := by
  unfold Working.evaluate at h
  split at h
  · cases h
  · cases h
    exact ⟨hquiet, nofun⟩

theorem execute_keeps {action : String} {parameters : KubernetesParameters} {cluster : Cluster}
    (h : working.execute reading action parameters cluster = some (working', events))
    (hquiet : ¬ working.CanMutate among) :
    ¬ working'.CanMutate among ∧ ∀ event ∈ events, ¬ event.Mutates among := by
  obtain ⟨evaluation, -, h⟩ := Option.bind_eq_some_iff.mp h
  split at h
  · cases h
  next hexecuting =>
    cases h
    have hwaiting : ¬ working.executing = true := by
      intro hexecutes
      exact hexecuting (by simp [hexecutes])
    unfold Working.CanMutate at hquiet ⊢
    rw [if_neg hwaiting] at hquiet
    refine ⟨?_, ?_⟩
    · rw [if_pos rfl]
      rintro ⟨command, hcommand, hamong, -⟩
      obtain ⟨line, hline, rfl⟩ := List.mem_map.mp hcommand
      exact hquiet (acts_of_issued hline hamong)
    · intro event hevent
      rw [List.mem_singleton.mp hevent]
      exact id

def Working.Orderly (working : Working) : Prop :=
  working.executing = false → working.pending = []

theorem kubectl_keeps (h : working.kubectl = some (working', events))
    (horderly : working.Orderly) (hquiet : ¬ working.CanMutate among) :
    ¬ working'.CanMutate among ∧ ∀ event ∈ events, ¬ event.Mutates among := by
  unfold Working.kubectl at h
  split at h
  · cases h
  next command rest hpending =>
    cases h
    have hexecuting : working.executing = true := by
      by_contra hnot
      rw [horderly (by simpa using hnot)] at hpending
      cases hpending
    unfold Working.CanMutate at hquiet ⊢
    rw [if_pos hexecuting] at hquiet
    refine ⟨?_, ?_⟩
    · rw [if_pos hexecuting]
      rintro ⟨other, hother, hmutates⟩
      exact hquiet ⟨other, by rw [hpending]; exact List.mem_cons_of_mem _ hother, hmutates⟩
    · intro event hevent
      rw [List.mem_singleton.mp hevent]
      exact fun hmutates => hquiet ⟨command, by rw [hpending]; exact List.mem_cons_self, hmutates⟩

end

section

variable {among : Action → Bool} {reading : TextReading} {s t : State} {op : Op}
  {events : List Event} {f : Working → Option (Working × List Event)} {runId : Nat}

theorem change_spec (h : s.change runId f = some (t, events)) :
    ∃ working ∈ s.working, working.run.runId = runId ∧
      ∃ changed, f working = some (changed, events) ∧ t.config = s.config ∧
        t.creating = s.creating ∧ t.queue = s.queue ∧ t.switching = s.switching ∧
        ∀ other ∈ t.working, other ∈ s.working ∨ other = changed := by
  obtain ⟨working, hfind, h⟩ := Option.bind_eq_some_iff.mp h
  obtain ⟨⟨changed, happened⟩, hf, h⟩ := Option.bind_eq_some_iff.mp h
  cases h
  refine ⟨working, List.mem_of_find?_eq_some hfind, by simpa using List.find?_some hfind, changed,
    hf, rfl, rfl, rfl, rfl, ?_⟩
  intro other hother
  obtain ⟨before, hbefore, rfl⟩ := List.mem_map.mp hother
  split
  · exact .inr rfl
  · exact .inl hbefore

/-- What every run that is worked on keeps. -/
structure Working.Sound (working : Working) : Prop where
  orderly : working.Orderly
  evaluation : ∀ evaluation, working.evaluation = some evaluation →
    evaluation.liveExecution = liveExecutionEnabled working.run.config evaluation.system

theorem change_sound
    (hf : ∀ working changed happened, f working = some (changed, happened) →
      working.Sound → changed.Sound) (hsound : ∀ working ∈ s.working, working.Sound)
    (h : s.change runId f = some (t, events)) : ∀ working ∈ t.working, working.Sound := by
  obtain ⟨working, hworking, -, changed, hchanged, -, -, -, -, hall⟩ := change_spec h
  intro other hother
  rcases hall other hother with hother | rfl
  · exact hsound other hother
  · exact hf working _ events hchanged (hsound working hworking)

theorem step_sound (hsound : ∀ working ∈ s.working, working.Sound)
    (h : step reading s op = some (t, events)) : ∀ working ∈ t.working, working.Sound := by
  cases op with
  | createRun payload | refuse runId | killSwitchRaises place =>
    cases h
    exact hsound
  | finalizeRun runId =>
    cases h
    exact fun working hworking => hsound working (List.mem_filter.mp hworking).1
  | putNowait runId | killSwitchReturns place =>
    obtain ⟨_, _, h⟩ := Option.bind_eq_some_iff.mp h
    cases h
    exact hsound
  | get readiness =>
    dsimp only [step] at h
    split at h
    · cases h
    · split at h
      · cases h
        intro working hworking
        rcases List.mem_append.mp hworking with hworking | hworking
        · exact hsound working hworking
        · rw [List.mem_singleton.mp hworking]
          exact ⟨fun _ => rfl, nofun⟩
      · cases h
        exact hsound
  | evaluate runId system execute =>
    refine change_sound ?_ hsound h
    intro working changed happened hf hsound
    unfold Working.evaluate at hf
    split at hf
    · cases hf
    · cases hf
      refine ⟨hsound.orderly, ?_⟩
      rintro evaluation ⟨⟩
      rfl
  | execute runId action parameters cluster =>
    refine change_sound ?_ hsound h
    intro working changed happened hf hsound
    obtain ⟨evaluation, -, hf⟩ := Option.bind_eq_some_iff.mp hf
    split at hf
    · cases hf
    · cases hf
      exact ⟨nofun, hsound.evaluation⟩
  | kubectl runId =>
    refine change_sound ?_ hsound h
    intro working changed happened hf hsound
    unfold Working.kubectl at hf
    split at hf
    · cases hf
    next command rest hpending =>
      cases hf
      refine ⟨fun hexecuting => ?_, hsound.evaluation⟩
      have hempty := hsound.orderly hexecuting
      rw [hpending] at hempty
      cases hempty
  | pullKillSwitch payload =>
    dsimp only [step] at h
    split at h
    · cases h
      exact hsound
    · cases h
      exact hsound

/-- The configuration cannot act on these any more, and no run can. -/
structure State.Quiet (among : Action → Bool) (s : State) : Prop where
  config : ¬ Acts among s.config.kubernetes
  settled : s.Settled among

theorem change_quiet
    (hf : ∀ working ∈ s.working, ∀ changed happened, f working = some (changed, happened) →
      ¬ working.CanMutate among →
        ¬ changed.CanMutate among ∧ ∀ event ∈ happened, ¬ event.Mutates among)
    (hquiet : s.Quiet among) (h : s.change runId f = some (t, events)) :
    t.Quiet among ∧ ∀ event ∈ events, ¬ event.Mutates among := by
  obtain ⟨working, hworking, -, changed, hchanged, hconfig, hcreating, hqueue, -, hall⟩ :=
    change_spec h
  obtain ⟨hstill, hsilent⟩ := hf working hworking changed events hchanged
    (hquiet.settled.working working hworking)
  refine ⟨⟨hconfig ▸ hquiet.config, hcreating ▸ hquiet.settled.creating,
    hqueue ▸ hquiet.settled.queue, ?_⟩, hsilent⟩
  intro other hother
  rcases hall other hother with hother | rfl
  · exact hquiet.settled.working other hother
  · exact hstill

/-- **Once quiet, always quiet**: whatever the next step is, no mutation is started. -/
theorem quiet_step (hsound : ∀ working ∈ s.working, working.Sound) (hquiet : s.Quiet among)
    (h : step reading s op = some (t, events)) :
    t.Quiet among ∧ ∀ event ∈ events, ¬ event.Mutates among := by
  obtain ⟨hconfig, hcreating, hqueue, hworking⟩ := hquiet
  cases op with
  | createRun payload =>
    cases h
    refine ⟨⟨hconfig, ?_, hqueue, hworking⟩, nofun⟩
    intro run hrun
    rcases List.mem_append.mp hrun with hrun | hrun
    · exact hcreating run hrun
    · rw [List.mem_singleton.mp hrun]
      rintro ⟨readiness, adapter, -, hacts⟩
      exact hconfig (acts_of_adapter hacts)
  | putNowait runId =>
    obtain ⟨run, hfind, h⟩ := Option.bind_eq_some_iff.mp h
    cases h
    refine ⟨⟨hconfig, fun run hrun => hcreating run (List.mem_filter.mp hrun).1, ?_, hworking⟩,
      nofun⟩
    intro other hother
    rcases List.mem_append.mp hother with hother | hother
    · exact hqueue other hother
    · rw [List.mem_singleton.mp hother]
      exact hcreating run (List.mem_of_find?_eq_some hfind)
  | refuse runId =>
    cases h
    exact ⟨⟨hconfig, fun run hrun => hcreating run (List.mem_filter.mp hrun).1, hqueue,
      hworking⟩, nofun⟩
  | get readiness =>
    dsimp only [step] at h
    split at h
    · cases h
    next run rest hqueued =>
      have hrest : ∀ other ∈ rest, ¬ other.CanMutate among := fun other hother =>
        hqueue other (by rw [hqueued]; exact List.mem_cons_of_mem _ hother)
      split at h
      next adapter hadapter =>
        cases h
        refine ⟨⟨hconfig, hcreating, hrest, ?_⟩, nofun⟩
        intro working hmem
        rcases List.mem_append.mp hmem with hmem | hmem
        · exact hworking working hmem
        · rw [List.mem_singleton.mp hmem]
          intro hacts
          exact hqueue run (by rw [hqueued]; exact List.mem_cons_self)
            ⟨readiness, adapter, hadapter, hacts⟩
      · cases h
        exact ⟨⟨hconfig, hcreating, hrest, hworking⟩, nofun⟩
  | evaluate runId system execute =>
    exact change_quiet (fun _ _ _ _ hf => evaluate_keeps hf)
      ⟨hconfig, hcreating, hqueue, hworking⟩ h
  | execute runId action parameters cluster =>
    exact change_quiet (fun _ _ _ _ hf => execute_keeps hf)
      ⟨hconfig, hcreating, hqueue, hworking⟩ h
  | kubectl runId =>
    exact change_quiet
      (fun working hmem _ _ hf => kubectl_keeps hf (hsound working hmem).orderly)
      ⟨hconfig, hcreating, hqueue, hworking⟩ h
  | finalizeRun runId =>
    cases h
    exact ⟨⟨hconfig, hcreating, hqueue,
      fun working hmem => hworking working (List.mem_filter.mp hmem).1⟩, nofun⟩
  | pullKillSwitch payload =>
    dsimp only [step] at h
    split at h
    · cases h
      exact ⟨⟨fun hacts => hconfig (acts_of_switched hacts), hcreating, hqueue, hworking⟩, nofun⟩
    · cases h
      exact ⟨⟨hconfig, hcreating, hqueue, hworking⟩, nofun⟩
  | killSwitchReturns place =>
    obtain ⟨actions, -, h⟩ := Option.bind_eq_some_iff.mp h
    cases h
    refine ⟨⟨hconfig, hcreating, hqueue, hworking⟩, ?_⟩
    intro event hevent
    rw [List.mem_singleton.mp hevent]
    exact id
  | killSwitchRaises place =>
    cases h
    exact ⟨⟨hconfig, hcreating, hqueue, hworking⟩, nofun⟩

end

section

variable {among : Action → Bool} {name : String} {reading : TextReading} {config : RuntimeConfig}
  {s t : State} {op : Op} {trace events : List Event}

/-- What is kept of a switch with this action: an open call has changed the configuration, and
once one has returned everything is quiet. -/
structure Obeyed (name : String) (among : Action → Bool) (s : State) (trace : List Event) :
    Prop where
  switching : ∀ actions ∈ s.switching, name ∈ actions → ¬ Acts among s.config.kubernetes
  quiet : ∀ actions, .switched actions ∈ trace → name ∈ actions → s.Quiet among
  silent : SilentAfter name among trace

theorem switching_step
    (hpull : ∀ payload actions, killSwitchActions payload = .ok actions → name ∈ actions →
      ∀ config, ¬ Acts among (switchedConfig config payload))
    (hswitching : ∀ actions ∈ s.switching, name ∈ actions → ¬ Acts among s.config.kubernetes)
    (h : step reading s op = some (t, events)) :
    ∀ actions ∈ t.switching, name ∈ actions → ¬ Acts among t.config.kubernetes := by
  cases op with
  | createRun payload | refuse runId | finalizeRun runId =>
    cases h
    exact hswitching
  | putNowait runId =>
    obtain ⟨_, _, h⟩ := Option.bind_eq_some_iff.mp h
    cases h
    exact hswitching
  | get readiness =>
    dsimp only [step] at h
    split at h
    · cases h
    · split at h <;> cases h <;> exact hswitching
  | evaluate runId system execute | execute runId action parameters cluster | kubectl runId =>
    obtain ⟨-, -, -, -, -, hconfig, -, -, hsame, -⟩ := change_spec h
    rw [hconfig, hsame]
    exact hswitching
  | pullKillSwitch payload =>
    dsimp only [step] at h
    split at h
    next actions hactions =>
      cases h
      intro other hother hname
      rcases List.mem_append.mp hother with hother | hother
      · exact fun hacts => hswitching other hother hname (acts_of_switched hacts)
      · rw [List.mem_singleton.mp hother] at hname
        exact hpull payload actions hactions hname _
    · cases h
      exact hswitching
  | killSwitchReturns place =>
    obtain ⟨_, _, h⟩ := Option.bind_eq_some_iff.mp h
    cases h
    exact fun actions hactions => hswitching actions (List.mem_of_mem_eraseIdx hactions)
  | killSwitchRaises place =>
    cases h
    exact fun actions hactions => hswitching actions (List.mem_of_mem_eraseIdx hactions)

theorem step_events (h : step reading s op = some (t, events)) :
    events = [] ∨
    (∃ runId action parameters cluster, op = .execute runId action parameters cluster ∧
      ∃ working ∈ s.working, working.run.runId = runId ∧
        ∃ evaluation, working.evaluation = some evaluation ∧
          evaluation.system = "kubernetes_service" ∧
          events = [.acted runId evaluation.liveExecution
            (working.adapter.kubernetes working.run.config).kubernetesLiveExecutionEnabled]) ∨
    (∃ runId command, events = [.issued runId command]) ∨
    ∃ place actions, op = .killSwitchReturns place ∧ s.switching[place]? = some actions ∧
      events = [.switched actions] ∧ t = { s with switching := s.switching.eraseIdx place } := by
  cases op with
  | createRun payload | refuse runId | finalizeRun runId | killSwitchRaises place =>
    cases h
    exact .inl rfl
  | putNowait runId =>
    obtain ⟨_, _, h⟩ := Option.bind_eq_some_iff.mp h
    cases h
    exact .inl rfl
  | get readiness =>
    dsimp only [step] at h
    split at h
    · cases h
    · split at h <;> cases h <;> exact .inl rfl
  | evaluate runId system execute =>
    obtain ⟨working, -, -, changed, hf, -⟩ := change_spec h
    unfold Working.evaluate at hf
    split at hf
    · cases hf
    · cases hf
      exact .inl rfl
  | execute runId action parameters cluster =>
    obtain ⟨working, hworking, hid, changed, hf, -⟩ := change_spec h
    obtain ⟨evaluation, hevaluation, hf⟩ := Option.bind_eq_some_iff.mp hf
    split at hf
    · cases hf
    next hexecutes =>
      cases hf
      refine .inr (.inl ⟨runId, action, parameters, cluster, rfl, working, hworking, hid,
        evaluation, hevaluation, ?_, by rw [hid]⟩)
      by_contra hsystem
      exact hexecutes (by simp [hsystem])
  | kubectl runId =>
    obtain ⟨working, -, -, changed, hf, -⟩ := change_spec h
    unfold Working.kubectl at hf
    split at hf
    · cases hf
    · cases hf
      exact .inr (.inr (.inl ⟨_, _, rfl⟩))
  | pullKillSwitch payload =>
    dsimp only [step] at h
    split at h <;> cases h <;> exact .inl rfl
  | killSwitchReturns place =>
    obtain ⟨actions, hactions, h⟩ := Option.bind_eq_some_iff.mp h
    cases h
    exact .inr (.inr (.inr ⟨place, actions, rfl, hactions, rfl, rfl⟩))

theorem mem_switched {actions : List String} (h : step reading s op = some (t, events))
    (hmem : .switched actions ∈ events) :
    ∃ place, op = .killSwitchReturns place ∧ s.switching[place]? = some actions ∧
      events = [.switched actions] ∧ t = { s with switching := s.switching.eraseIdx place } := by
  rcases step_events h with rfl | ⟨_, _, _, _, -, _, -, -, _, -, -, rfl⟩ | ⟨_, _, rfl⟩ |
    ⟨place, found, hop, hplace, rfl, ht⟩
  · cases hmem
  · simp at hmem
  · simp at hmem
  · cases List.mem_singleton.mp hmem
    exact ⟨place, hop, hplace, rfl, ht⟩

theorem obeyed_step
    (hpull : ∀ payload actions, killSwitchActions payload = .ok actions → name ∈ actions →
      ∀ config, ¬ Acts among (switchedConfig config payload))
    (hmet : ∀ place actions, op = .killSwitchReturns place → s.switching[place]? = some actions →
      name ∈ actions → s.Settled among)
    (hsound : ∀ working ∈ s.working, working.Sound) (hobeyed : Obeyed name among s trace)
    (h : step reading s op = some (t, events)) : Obeyed name among t (trace ++ events) where
  switching := switching_step hpull hobeyed.switching h
  quiet := by
    intro actions hactions hname
    rcases List.mem_append.mp hactions with hactions | hactions
    · exact (quiet_step hsound (hobeyed.quiet actions hactions hname) h).1
    · obtain ⟨place, hop, hplace, -, rfl⟩ := mem_switched h hactions
      have hsettled := hmet place actions hop hplace hname
      exact ⟨hobeyed.switching actions (List.mem_of_getElem? hplace) hname, hsettled.creating,
        hsettled.queue, hsettled.working⟩
  silent := by
    intro before actions after hsplit hname event hevent
    rcases split_append hsplit with ⟨front, htrace, rfl⟩ | ⟨front, -, hevents⟩
    · rcases List.mem_append.mp hevent with hevent | hevent
      · exact hobeyed.silent before actions front htrace hname event hevent
      · have hquiet := hobeyed.quiet actions (by rw [htrace]; simp) hname
        exact (quiet_step hsound hquiet h).2 event hevent
    · have hmem : Event.switched actions ∈ events := by
        rw [hevents]
        simp
      obtain ⟨-, -, -, honly, -⟩ := mem_switched h hmem
      rw [honly] at hevents
      obtain ⟨-, rfl⟩ : front = [] ∧ after = [] := by
        cases front with
        | nil => exact ⟨rfl, (List.cons.inj hevents).2.symm⟩
        | cons first front => simp at hevents
      cases hevent

theorem acted_agrees {runId : Nat} {evaluated used : Bool} (hmet : Met s op)
    (hsound : ∀ working ∈ s.working, working.Sound) (h : step reading s op = some (t, events))
    (hmem : .acted runId evaluated used ∈ events) : evaluated = used := by
  rcases step_events h with rfl | ⟨_, _, _, _, rfl, working, hworking, hid, evaluation,
    hevaluation, hsystem, rfl⟩ | ⟨_, _, rfl⟩ | ⟨_, _, -, -, rfl, -⟩
  · cases hmem
  · cases List.mem_singleton.mp hmem
    rw [(hsound working hworking).evaluation evaluation hevaluation, hsystem]
    unfold liveExecutionEnabled AdapterKind.kubernetes
    rw [if_pos rfl]
    split
    · rfl
    next hbridge => exact (hmet working hworking hid).resolve_left hbridge
  · simp at hmem
  · simp at hmem

structure Reached (s : State) (trace : List Event) : Prop where
  sound : ∀ working ∈ s.working, working.Sound
  disabled : Obeyed "live_execution_disabled" (fun _ => true) s trace
  cleared : Obeyed "namespace_allowlist_cleared" Action.namespaced s trace
  agrees : ∀ runId evaluated used, .acted runId evaluated used ∈ trace → evaluated = used

theorem reached_step (hmet : Met s op) (hreached : Reached s trace)
    (h : step reading s op = some (t, events)) : Reached t (trace ++ events) where
  sound := step_sound hreached.sound h
  disabled := obeyed_step
    (fun _ _ hactions hname _ => not_acts_disabled ((mem_killSwitchActions hactions).1 hname))
    (fun place actions hop hplace hname => by
      subst hop
      exact (hmet actions hplace).1 hname)
    hreached.sound hreached.disabled h
  cleared := obeyed_step
    (fun _ _ hactions hname _ => not_acts_cleared ((mem_killSwitchActions hactions).2 hname))
    (fun place actions hop hplace hname => by
      subst hop
      exact (hmet actions hplace).2 hname)
    hreached.sound hreached.cleared h
  agrees := by
    intro runId evaluated used hmem
    rcases List.mem_append.mp hmem with hmem | hmem
    · exact hreached.agrees runId evaluated used hmem
    · exact acted_agrees hmet hreached.sound h hmem

theorem runs_reached (h : Runs reading config s trace) : Reached s trace := by
  induction h with
  | start =>
    have hnone : ∀ name among, Obeyed name among { config } [] := by
      intro name among
      refine ⟨nofun, nofun, ?_⟩
      intro before actions after hsplit
      cases before <;> cases hsplit
    exact ⟨nofun, hnone _ _, hnone _ _, nofun⟩
  | step op earlier met taken ih => exact reached_step met ih taken

/-- **The kill switch reaches every run** of those whose steps all meet the condition. -/
theorem kill_switch_reaches (h : Runs reading config s trace) : SwitchReaches trace :=
  have hreached := runs_reached h
  ⟨hreached.disabled.silent, hreached.cleared.silent, hreached.agrees⟩

end

section

def play (reading : TextReading) (s : State) : List Op → Option (List Event)
  | [] => some []
  | op :: rest => do
    let (t, events) ← step reading s op
    return events ++ (← play reading t rest)

def liveConfig : RuntimeConfig where
  kubernetes := ⟨true, ["prod"], ["shop"], "kubectl", 120⟩
  evaluationMode := .str "stub"
  orchestrationMode := .str "native_hermes"

def plainReading : TextReading := ⟨fun _ => none, fun _ => none⟩

def webDeployment : KubernetesParameters where
  deploymentName := some "web"
  namespaceName := some "shop"
  kubeContext := some "prod"

def calmCluster : Cluster := fun _ => .exited 0 "" ""

/-- A run that is created once the switch has returned does not touch the cluster. -/
theorem kill_switch_reaches_sample :
    SwitchReaches [.switched ["live_execution_disabled"], .acted 0 false false] := by
  have pulled : Runs plainReading liveConfig _ _ :=
    .step (.pullKillSwitch [("disable_live_execution", .bool true)]) .start trivial rfl
  have returned : Runs plainReading liveConfig _ _ :=
    .step (.killSwitchReturns 0) pulled
      (fun _ _ => ⟨fun _ => ⟨nofun, nofun, nofun⟩, fun _ => ⟨nofun, nofun, nofun⟩⟩) rfl
  have created : Runs plainReading liveConfig _ _ :=
    .step (.createRun []) returned trivial rfl
  have queued : Runs plainReading liveConfig _ _ := .step (.putNowait 0) created trivial rfl
  have taken : Runs plainReading liveConfig _ _ :=
    .step (.get ⟨false, false⟩) queued trivial rfl
  have evaluated : Runs plainReading liveConfig _ _ :=
    .step (.evaluate 0 "kubernetes_service" true) taken trivial rfl
  have executed : Runs plainReading liveConfig _ _ :=
    .step (.execute 0 "restart_deployment" webDeployment calmCluster) evaluated
      (by
        intro working hworking _
        rw [List.mem_singleton.mp hworking]
        exact .inl rfl) rfl
  exact kill_switch_reaches executed

def waitingRun : List Op :=
  [.createRun [], .putNowait 0, .get ⟨false, false⟩, .evaluate 0 "kubernetes_service" true,
    .pullKillSwitch [("disable_live_execution", .bool true)], .killSwitchReturns 0,
    .execute 0 "restart_deployment" webDeployment calmCluster, .kubectl 0]

def waitingTrace : List Event :=
  [.switched ["live_execution_disabled"], .acted 0 true true,
    .issued 0 ⟨.restartDeployment, ⟨["kubectl"],
      ["--context", "prod", "rollout", "restart", "deployment/web", "-n", "shop"]⟩⟩]

/-- The run restarts the deployment after the switch has disabled live execution. -/
theorem waiting_run_restarts :
    play plainReading { config := liveConfig } waitingRun = some waitingTrace ∧
      ¬ SwitchReaches waitingTrace := by
  refine ⟨by decide +kernel, fun hlaw => ?_⟩
  exact hlaw.disabled [] _ _ rfl (by simp) (.issued 0 _)
    (List.mem_cons_of_mem _ (List.mem_singleton_self _)) ⟨rfl, by decide⟩

end

end OrbitalMesh.LiveExecution
