import OrbitalMesh.Base.CommandLine
import OrbitalMesh.Decision.Guards

/-!
# Live commands on a cluster

`KubernetesAdapter` restarts, rolls back and scales deployments, deletes pods, and cordons
and drains nodes.  In live mode it runs `kubectl` with a context and a namespace of the
allowlists.  The name of a deployment goes after `deployment/`; the names of pods and nodes
stand alone.
-/

namespace OrbitalMesh.Actuators

open OrbitalMesh.Decision CommandLine

/-- The members of `RuntimeConfig` that the adapter reads. -/
structure KubernetesConfig where
  kubernetesLiveExecutionEnabled : Bool
  kubernetesAllowedContexts : List String
  kubernetesAllowedNamespaces : List String
  kubectlCommand : String
  kubernetesRolloutTimeoutSeconds : Int

/-- `KubernetesParameters`.  The numbers are not checked before the adapter reads them. -/
structure KubernetesParameters where
  deploymentName : Option String := none
  namespaceName : Option String := none
  kubeContext : Option String := none
  revision : Option String := none
  podName : Option String := none
  replicas : Option Json := none
  nodeName : Option String := none
  gracePeriodSeconds : Option Json := none

/-- `ActuatorResult`; a failure has a reason and a detail. -/
structure ActuatorResult where
  status : String
  externalRefs : Dict
  failure : Option (String × String) := none

/-- A command line: the words of `kubectl_command`, and what they are given. -/
structure Command where
  command : List String
  arguments : List String
deriving DecidableEq

/-- What a command comes to: it ends, or `subprocess.run` raises. -/
inductive Completed where
  | exited (returncode : Int) (stdout stderr : String)
  | raised (error : PyError)

/-- What goes wrong: a `_KubectlError`, or an exception that is not caught. -/
inductive Failure where
  | kubectl (text : String)
  | raised (error : PyError)

/-- A part of a method: the commands that it issued, and what it came to. -/
structure Acting (α : Type) where
  issued : List Command
  result : Except Failure α

namespace Acting

variable {α β : Type}

instance : Monad Acting where
  pure a := ⟨[], .ok a⟩
  bind x f :=
    match x.result with
    | .ok a => ⟨x.issued ++ (f a).issued, (f a).result⟩
    | .error failure => ⟨x.issued, .error failure⟩

def fail (failure : Failure) : Acting α := ⟨[], .error failure⟩

def ofExcept : Except PyError α → Acting α
  | .ok a => pure a
  | .error error => fail (.raised error)

end Acting

abbrev Cluster := Command → Completed

def kubectl (config : KubernetesConfig) (cluster : Cluster) (kubeContext : String)
    (args : List String) : Acting String :=
  match Text.splitWords config.kubectlCommand.toList with
  | .error text => .fail (.raised ⟨.valueError, text⟩)
  | .ok words =>
    let line : Command :=
      ⟨words.map String.ofList,
        (if kubeContext = "" then [] else ["--context", kubeContext]) ++ args⟩
    { issued := [line]
      result :=
        match cluster line with
        | .raised error => .error (.raised error)
        | .exited returncode stdout stderr =>
          if returncode = 0 then .ok (pyStrip stdout)
          else if pyStrip stderr = "" then
            .error (.kubectl ("kubectl exited " ++ toString returncode))
          else .error (.kubectl (pyStrip stderr)) }

variable (config : KubernetesConfig) (kubeContext : String)

def validateContextOnly : Acting Unit :=
  if config.kubernetesAllowedContexts = [] then
    .fail (.kubectl "kubernetes live execution requires an explicit context allowed list")
  else if kubeContext ∉ config.kubernetesAllowedContexts then
    .fail (.kubectl ("context '" ++ kubeContext ++ "' is not in the allowed list"))
  else pure ()

def validateContextAndNamespace (kubeContext namespaceName : String) :
    Acting Unit :=
  if config.kubernetesAllowedContexts = [] then
    .fail (.kubectl "kubernetes live execution requires an explicit context allowed list")
  else if config.kubernetesAllowedNamespaces = [] then
    .fail (.kubectl "kubernetes live execution requires an explicit namespace allowed list")
  else if kubeContext ∉ config.kubernetesAllowedContexts then
    .fail (.kubectl ("context '" ++ kubeContext ++ "' is not in the allowed list"))
  else if namespaceName ∉ config.kubernetesAllowedNamespaces then
    .fail (.kubectl ("namespace '" ++ namespaceName ++ "' is not in the allowed list"))
  else pure ()

def succeeded (externalRefs : Dict) : ActuatorResult where
  status := "succeeded"
  externalRefs := externalRefs

def failed (reason detail : String) (externalRefs : Dict) : ActuatorResult where
  status := "failed"
  externalRefs := externalRefs
  failure := some (reason, detail)

/-- `except _KubectlError`, around the live part of a method. -/
def liveResult (externalRefs : Dict) (action : Acting Unit) :
    Acting ActuatorResult where
  issued := action.issued
  result :=
    match action.result with
    | .ok () => .ok (succeeded ([("live_execution", .bool true),
        ("kube_context", .str kubeContext)] ++ externalRefs))
    | .error (.kubectl text) =>
      .ok (failed "kubernetes_live_execution_failed" text
        [("live_execution", .bool true), ("kube_context", .str kubeContext)])
    | .error failure => .error failure

/-- The commands of a method, in this order, up to the first that fails. -/
def kubectlAll (config : KubernetesConfig) (cluster : Cluster) (kubeContext : String) :
    List (List String) → Acting Unit
  | [] => pure ()
  | args :: rest => do
    let _ ← kubectl config cluster kubeContext args
    kubectlAll config cluster kubeContext rest

namespace KubernetesParameters

variable (parameters : KubernetesParameters)

/-- `parameters.get("kube_context", "")`. -/
def contextOr : String := parameters.kubeContext.getD ""

/-- `parameters.get("namespace", "default")`. -/
def namespaceOr : String := parameters.namespaceName.getD "default"

/-- `parameters["deployment_name"]`. -/
def requiredDeployment : Acting String :=
  match parameters.deploymentName with
  | some name => pure name
  | none => .fail (.raised ⟨.keyError, "'deployment_name'"⟩)

end KubernetesParameters

/-- `f"--timeout={…}s"`. -/
def timeoutOption : String :=
  "--timeout=" ++ (toString config.kubernetesRolloutTimeoutSeconds ++ "s")

variable (cluster : Cluster) (parameters : KubernetesParameters)

/-- `_live_restart` and `_live_rollback`: a rollout of a deployment, with the verb of
`kubectl rollout` and the action that is reported. -/
def liveRollout (deploymentName verb action : String) : Acting ActuatorResult :=
  liveResult parameters.contextOr
    [("deployment_name", .str deploymentName), ("rollout_action", .str action)] do
      validateContextAndNamespace config parameters.contextOr parameters.namespaceOr
      kubectlAll config cluster parameters.contextOr
        [["rollout", verb, "deployment/" ++ deploymentName, "-n", parameters.namespaceOr],
          ["rollout", "status", "deployment/" ++ deploymentName, "-n", parameters.namespaceOr,
            timeoutOption config]]

def rollbackDeployment : Acting ActuatorResult := do
  let deploymentName ← parameters.requiredDeployment
  let revision := if parameters.revision.getD "" = "" then "previous"
    else parameters.revision.getD ""
  if config.kubernetesLiveExecutionEnabled then
    liveRollout config cluster parameters deploymentName "undo" "rollback_deployment"
  else
    return succeeded
      [("rollout_change_id", .str ("k8srollback_" ++ deploymentName ++ "_" ++ revision)),
        ("rollout_action", .str "rollback_deployment")]

def restartDeployment : Acting ActuatorResult := do
  let deploymentName ← parameters.requiredDeployment
  if config.kubernetesLiveExecutionEnabled then
    liveRollout config cluster parameters deploymentName "restart" "restart_deployment"
  else
    return succeeded [("rollout_change_id", .str ("k8srestart_" ++ deploymentName)),
      ("rollout_action", .str "restart_deployment")]

def restartPod : Acting ActuatorResult :=
  let podName := parameters.podName.getD ""
  if podName = "" then return failed "missing_parameter" "pod_name is required" []
  else if !config.kubernetesLiveExecutionEnabled then
    return succeeded
      [("rollout_change_id", .str ("k8sdeletepod_" ++ parameters.namespaceOr ++ "_" ++ podName)),
        ("rollout_action", .str "restart_pod")]
  else
    liveResult parameters.contextOr
      [("pod_name", .str podName), ("rollout_action", .str "restart_pod")] do
        validateContextAndNamespace config parameters.contextOr parameters.namespaceOr
        kubectlAll config cluster parameters.contextOr
          [["delete", "pod", podName, "-n", parameters.namespaceOr]]

/-- `isinstance(replicas, int)`, with `replicas < 0`. -/
def isReplicas : Json → Bool
  | .int n => decide (0 ≤ n)
  | .bool _ => true
  | _ => false

def scaleDeployment : Acting ActuatorResult :=
  let deploymentName := parameters.deploymentName.getD ""
  let replicas := parameters.replicas.getD .null
  if deploymentName = "" || replicas == .null then
    return failed "missing_parameter" "deployment_name and replicas are required" []
  else if !isReplicas replicas then
    return failed "invalid_parameter"
      ("replicas must be a non-negative integer, got " ++ jsonRepr replicas) []
  else if !config.kubernetesLiveExecutionEnabled then
    return succeeded
      [("rollout_change_id", .str ("k8sscale_" ++ parameters.namespaceOr ++ "_" ++
          deploymentName ++ "_" ++ pyStr replicas)),
        ("rollout_action", .str "scale_deployment"), ("replicas", replicas)]
  else
    liveResult parameters.contextOr
      [("deployment_name", .str deploymentName), ("rollout_action", .str "scale_deployment"),
        ("replicas", replicas)] do
        validateContextAndNamespace config parameters.contextOr parameters.namespaceOr
        kubectlAll config cluster parameters.contextOr
          [["scale", "deployment/" ++ deploymentName, "--replicas=" ++ pyStr replicas, "-n",
            parameters.namespaceOr]]

def cordonNode : Acting ActuatorResult :=
  let nodeName := parameters.nodeName.getD ""
  if nodeName = "" then return failed "missing_parameter" "node_name is required" []
  else if !config.kubernetesLiveExecutionEnabled then
    return succeeded [("rollout_change_id", .str ("k8scordon_" ++ nodeName)),
      ("rollout_action", .str "cordon_node")]
  else
    liveResult parameters.contextOr
      [("node_name", .str nodeName), ("rollout_action", .str "cordon_node")] do
        validateContextOnly config parameters.contextOr
        kubectlAll config cluster parameters.contextOr [["cordon", nodeName]]

variable (reading : TextReading)

def drainNode (config : KubernetesConfig) (cluster : Cluster)
    (parameters : KubernetesParameters) : Acting ActuatorResult :=
  let nodeName := parameters.nodeName.getD ""
  if nodeName = "" then return failed "missing_parameter" "node_name is required" []
  else do
    let grace ← .ofExcept (pyInt reading (parameters.gracePeriodSeconds.getD (.int 60)))
    if !config.kubernetesLiveExecutionEnabled then
      return succeeded [("rollout_change_id", .str ("k8sdrain_" ++ nodeName)),
        ("rollout_action", .str "drain_node")]
    else
      liveResult parameters.contextOr
        [("node_name", .str nodeName), ("rollout_action", .str "drain_node"),
          ("grace_period_seconds", .int grace)] do
          validateContextOnly config parameters.contextOr
          kubectlAll config cluster parameters.contextOr
            [["drain", nodeName, "--ignore-daemonsets", "--delete-emptydir-data",
              "--grace-period=" ++ toString grace, timeoutOption config]]

inductive Action where
  | rollbackDeployment
  | restartDeployment
  | restartPod
  | scaleDeployment
  | cordonNode
  | drainNode
deriving DecidableEq

def Action.call (config : KubernetesConfig) (cluster : Cluster)
    (parameters : KubernetesParameters) : Action → Acting ActuatorResult
  | .rollbackDeployment => Actuators.rollbackDeployment config cluster parameters
  | .restartDeployment => Actuators.restartDeployment config cluster parameters
  | .restartPod => Actuators.restartPod config cluster parameters
  | .scaleDeployment => Actuators.scaleDeployment config cluster parameters
  | .cordonNode => Actuators.cordonNode config cluster parameters
  | .drainNode => Actuators.drainNode reading config cluster parameters

def Action.namespaced : Action → Bool
  | .cordonNode | .drainNode => false
  | _ => true

/-- The name that stands alone in a command. -/
def Action.bareName : Action → Option String
  | .restartPod => parameters.podName
  | .cordonNode | .drainNode => parameters.nodeName
  | _ => none

/-- The rows of words that an action gives to `kubectl`, after the context. -/
def Action.rows (config : KubernetesConfig)
    (parameters : KubernetesParameters) : Action → List (List Piece)
  | .rollbackDeployment => rollout "undo"
  | .restartDeployment => rollout "restart"
  | .restartPod =>
    [[.operand "delete", .operand "pod", .operand (parameters.podName.getD ""),
      .short 'n' "namespace" parameters.namespaceOr]]
  | .scaleDeployment =>
    [[.operand "scale", .operand ("deployment/" ++ parameters.deploymentName.getD ""),
      .joined "replicas" (pyStr (parameters.replicas.getD .null)),
      .short 'n' "namespace" parameters.namespaceOr]]
  | .cordonNode => [[.operand "cordon", .operand (parameters.nodeName.getD "")]]
  | .drainNode =>
    match pyInt reading (parameters.gracePeriodSeconds.getD (.int 60)) with
    | .error _ => []
    | .ok grace => [drain grace]
where
  /-- `--timeout=…s` -/
  timeout : Piece := .joined "timeout" (toString config.kubernetesRolloutTimeoutSeconds ++ "s")
  /-- `kubectl drain` -/
  drain (grace : Int) : List Piece :=
    [.operand "drain", .operand (parameters.nodeName.getD ""), .flag "ignore-daemonsets",
      .flag "delete-emptydir-data", .joined "grace-period" (toString grace), timeout]
  /-- `kubectl rollout`, and then `kubectl rollout status` -/
  rollout (verb : String) : List (List Piece) :=
    let deployment := Piece.operand ("deployment/" ++ parameters.deploymentName.getD "")
    let namespaceName := Piece.short 'n' "namespace" parameters.namespaceOr
    [[.operand "rollout", .operand verb, deployment, namespaceName],
      [.operand "rollout", .operand "status", deployment, namespaceName, timeout]]

def contextPieces : List Piece :=
  if kubeContext = "" then [] else [.long "context" kubeContext]

/-- What `_kubectl` issues. -/
def commandOf (words : List (List Char)) (kubeContext : String) (row : List Piece) : Command :=
  ⟨words.map String.ofList, (contextPieces kubeContext ++ row).flatMap Piece.words⟩

/-- The parameters get as far as `kubectl`. -/
structure Reaches (config : KubernetesConfig)
    (parameters : KubernetesParameters) (action : Action) : Prop where
  live : config.kubernetesLiveExecutionEnabled = true
  command : (Text.splitWords config.kubectlCommand.toList).isOk = true
  context : parameters.contextOr ∈ config.kubernetesAllowedContexts
  namespaceName : action.namespaced = true →
    parameters.namespaceOr ∈ config.kubernetesAllowedNamespaces
  grace : action = .drainNode →
    (pyInt reading (parameters.gracePeriodSeconds.getD (.int 60))).isOk = true

section

variable {reading : TextReading} {config : KubernetesConfig} {cluster : Cluster}
  {parameters : KubernetesParameters} {kubeContext namespaceName : String} {line : Command}

theorem issued_liveResult (refs : Dict) (action : Acting Unit) :
    (liveResult kubeContext refs action).issued = action.issued := rfl

variable {α : Type} {rows : List (List Piece)} {refs : Dict} {action : Action}

/-- A command of a sequence is one of its first part, or that has succeeded. -/
theorem mem_issued_bind {β : Type} {x : Acting α} {f : α → Acting β} (h : line ∈ (x >>= f).issued) :
    line ∈ x.issued ∨ ∃ a, x.result = .ok a ∧ line ∈ (f a).issued := by
  change line ∈ (match x.result with
    | .ok a => (⟨x.issued ++ (f a).issued, (f a).result⟩ : Acting β)
    | .error failure => ⟨x.issued, .error failure⟩).issued at h
  cases hresult : x.result with
  | ok a =>
    rw [hresult] at h
    exact (List.mem_append.mp h).imp_right fun h => ⟨a, rfl, h⟩
  | error failure =>
    rw [hresult] at h
    exact .inl h

theorem mem_issued_kubectl {row : List Piece}
    (h : line ∈ (kubectl config cluster kubeContext (row.flatMap Piece.words)).issued) :
    ∃ words, Text.splitWords config.kubectlCommand.toList = .ok words ∧
      line = commandOf words kubeContext row := by
  unfold kubectl at h
  split at h
  · cases h
  · next words hwords =>
    refine ⟨words, hwords, (List.mem_singleton.mp h).trans ?_⟩
    unfold commandOf contextPieces
    split <;> rfl

def IssuedOf (config : KubernetesConfig) (kubeContext : String) (rows : List (List Piece))
    (line : Command) : Prop :=
  ∃ words, Text.splitWords config.kubectlCommand.toList = .ok words ∧
    ∃ row ∈ rows, line = commandOf words kubeContext row

theorem mem_issued_kubectlAll
    (h : line ∈ (kubectlAll config cluster kubeContext (rows.map (·.flatMap Piece.words))).issued) :
    IssuedOf config kubeContext rows line := by
  induction rows with
  | nil => cases h
  | cons row rows ih =>
    rcases mem_issued_bind h with h | ⟨_, -, h⟩
    · obtain ⟨words, hwords, hline⟩ := mem_issued_kubectl h
      exact ⟨words, hwords, row, List.mem_cons_self, hline⟩
    · obtain ⟨words, hwords, other, hother, hline⟩ := ih h
      exact ⟨words, hwords, other, List.mem_cons_of_mem _ hother, hline⟩

theorem validateContextOnly_ok (h : (validateContextOnly config kubeContext).result = .ok ()) :
    kubeContext ∈ config.kubernetesAllowedContexts := by
  unfold validateContextOnly at h
  by_contra hnot
  split_ifs at h <;> cases h

theorem validateContextAndNamespace_ok
    (h : (validateContextAndNamespace config kubeContext namespaceName).result = .ok ()) :
    kubeContext ∈ config.kubernetesAllowedContexts ∧
      namespaceName ∈ config.kubernetesAllowedNamespaces := by
  unfold validateContextAndNamespace at h
  by_contra hnot
  rcases not_and_or.mp hnot with hnot | hnot
  · rw [if_pos hnot] at h
    split_ifs at h <;> cases h
  · rw [if_pos hnot] at h
    split_ifs at h <;> cases h

theorem issued_validateContextOnly : (validateContextOnly config kubeContext).issued = [] := by
  unfold validateContextOnly
  split_ifs <;> rfl

theorem issued_validateContextAndNamespace :
    (validateContextAndNamespace config kubeContext namespaceName).issued = [] := by
  unfold validateContextAndNamespace
  split_ifs <;> rfl

theorem mem_issued_namespaced (rows : List (List Piece))
    (h : line ∈ (liveResult kubeContext refs (do
      validateContextAndNamespace config kubeContext namespaceName
      kubectlAll config cluster kubeContext (rows.map (·.flatMap Piece.words)))).issued) :
    (kubeContext ∈ config.kubernetesAllowedContexts ∧
      namespaceName ∈ config.kubernetesAllowedNamespaces) ∧
      IssuedOf config kubeContext rows line := by
  rw [issued_liveResult] at h
  rcases mem_issued_bind h with h | ⟨⟨⟩, hvalid, h⟩
  · rw [issued_validateContextAndNamespace] at h
    cases h
  · exact ⟨validateContextAndNamespace_ok hvalid, mem_issued_kubectlAll h⟩

/-- The live part of a method about a node. -/
theorem mem_issued_cluster (rows : List (List Piece))
    (h : line ∈ (liveResult kubeContext refs (do
      validateContextOnly config kubeContext
      kubectlAll config cluster kubeContext (rows.map (·.flatMap Piece.words)))).issued) :
    kubeContext ∈ config.kubernetesAllowedContexts ∧
      IssuedOf config kubeContext rows line := by
  rw [issued_liveResult] at h
  rcases mem_issued_bind h with h | ⟨⟨⟩, hvalid, h⟩
  · rw [issued_validateContextOnly] at h
    cases h
  · exact ⟨validateContextOnly_ok hvalid, mem_issued_kubectlAll h⟩

theorem issued_ofExcept (x : Except PyError α) : (Acting.ofExcept x).issued = [] := by
  cases x <;> rfl

theorem ofExcept_ok {x : Except PyError α} {a : α} (h : (Acting.ofExcept x).result = .ok a) :
    x = .ok a := by
  cases x with
  | error e => cases h
  | ok b =>
    cases h
    rfl

theorem issued_requiredDeployment : parameters.requiredDeployment.issued = [] := by
  unfold KubernetesParameters.requiredDeployment
  split <;> rfl

theorem mem_issued_liveRollout {name verb action : String}
    (hname : parameters.requiredDeployment.result = .ok name)
    (h : line ∈ (liveRollout config cluster parameters name verb action).issued) :
    (parameters.contextOr ∈ config.kubernetesAllowedContexts ∧
      parameters.namespaceOr ∈ config.kubernetesAllowedNamespaces) ∧
      IssuedOf config parameters.contextOr (Action.rows.rollout config parameters verb) line := by
  unfold KubernetesParameters.requiredDeployment at hname
  cases hdeployment : parameters.deploymentName with
  | none =>
    rw [hdeployment] at hname
    cases hname
  | some other =>
    rw [hdeployment] at hname
    obtain rfl : other = name := Except.ok.inj hname
    have hrows : (Action.rows.rollout config parameters verb).map (·.flatMap Piece.words) =
        [["rollout", verb, "deployment/" ++ other, "-n", parameters.namespaceOr],
          ["rollout", "status", "deployment/" ++ other, "-n", parameters.namespaceOr,
            timeoutOption config]] := by
      unfold Action.rows.rollout
      rw [hdeployment]
      rfl
    unfold liveRollout at h
    rw [← hrows] at h
    exact mem_issued_namespaced _ h

/-- What the parameters need to get as far as `kubectl`, put together. -/
theorem IssuedOf.reaches (h : IssuedOf config parameters.contextOr rows line)
    (hlive : ¬ (!config.kubernetesLiveExecutionEnabled) = true)
    (hcontext : parameters.contextOr ∈ config.kubernetesAllowedContexts)
    (hnamespace : action.namespaced = true →
      parameters.namespaceOr ∈ config.kubernetesAllowedNamespaces)
    (hgrace : action = .drainNode →
      (pyInt reading (parameters.gracePeriodSeconds.getD (.int 60))).isOk = true) :
    Reaches reading config parameters action where
  live := by simpa using hlive
  command := by
    obtain ⟨words, hwords, -⟩ := h
    rw [hwords]
    rfl
  context := hcontext
  namespaceName := hnamespace
  grace := hgrace

/-- **What an action issues** is one of its rows, for parameters that get that far. -/
theorem mem_issued_call (h : line ∈ (action.call reading config cluster parameters).issued) :
    Reaches reading config parameters action ∧
      IssuedOf config parameters.contextOr (action.rows reading config parameters) line := by
  cases action with
  | rollbackDeployment | restartDeployment =>
    rcases mem_issued_bind h with h | ⟨name, hname, h⟩
    · rw [issued_requiredDeployment] at h
      cases h
    · dsimp -failIfUnchanged only at h
      split at h
      · next hlive =>
        obtain ⟨⟨hcontext, hnamespace⟩, hissued⟩ := mem_issued_liveRollout hname h
        exact ⟨hissued.reaches (by simp [hlive]) hcontext (fun _ => hnamespace) nofun, hissued⟩
      · cases h
  | restartPod =>
    unfold Action.call restartPod at h
    dsimp only at h
    split_ifs at h with hempty hlive
    · cases h
    · cases h
    · obtain ⟨⟨hcontext, hnamespace⟩, hissued⟩ := mem_issued_namespaced
        (Action.rows reading config parameters .restartPod) h
      exact ⟨hissued.reaches hlive hcontext (fun _ => hnamespace) nofun, hissued⟩
  | scaleDeployment =>
    unfold Action.call scaleDeployment at h
    dsimp only at h
    split_ifs at h with hempty hreplicas hlive
    · cases h
    · cases h
    · cases h
    · obtain ⟨⟨hcontext, hnamespace⟩, hissued⟩ := mem_issued_namespaced
        (Action.rows reading config parameters .scaleDeployment) h
      exact ⟨hissued.reaches hlive hcontext (fun _ => hnamespace) nofun, hissued⟩
  | cordonNode =>
    unfold Action.call cordonNode at h
    dsimp only at h
    split_ifs at h with hempty hlive
    · cases h
    · cases h
    · obtain ⟨hcontext, hissued⟩ := mem_issued_cluster
        (Action.rows reading config parameters .cordonNode) h
      exact ⟨hissued.reaches hlive hcontext nofun nofun, hissued⟩
  | drainNode =>
    unfold Action.call drainNode at h
    dsimp only at h
    split_ifs at h with hempty hlive
    · cases h
    · rcases mem_issued_bind h with h | ⟨_, -, h⟩
      · rw [issued_ofExcept] at h
        cases h
      · cases h
    · rcases mem_issued_bind h with h | ⟨grace, hgrace, h⟩
      · rw [issued_ofExcept] at h
        cases h
      · have hgrace := ofExcept_ok hgrace
        have hrows : (Action.rows reading config parameters .drainNode).map
            (·.flatMap Piece.words) =
            [["drain", parameters.nodeName.getD "", "--ignore-daemonsets",
              "--delete-emptydir-data", "--grace-period=" ++ toString grace,
              timeoutOption config]] := by
          simp only [Action.rows, hgrace]
          rfl
        rw [← hrows] at h
        obtain ⟨hcontext, hissued⟩ := mem_issued_cluster _ h
        exact ⟨hissued.reaches hlive hcontext nofun (fun _ => by rw [hgrace]; rfl), hissued⟩

end

/-- The options that the adapter relies on: `kubectl verb` knows them, with a value or
without. -/
structure KubectlOptions (kubectl : String → Options) : Prop where
  context : ∀ verb ∈ ["rollout", "delete", "scale", "cordon", "drain"],
    (kubectl verb).long "context" = some true
  namespaceName : ∀ verb ∈ ["rollout", "delete", "scale"],
    (kubectl verb).short 'n' = some ("namespace", true)
  timeout : ∀ verb ∈ ["rollout", "drain"], (kubectl verb).long "timeout" = some true
  replicas : (kubectl "scale").long "replicas" = some true
  ignoreDaemonsets : (kubectl "drain").long "ignore-daemonsets" = some false
  deleteEmptydirData : (kubectl "drain").long "delete-emptydir-data" = some false
  gracePeriod : (kubectl "drain").long "grace-period" = some true

def Action.verb : Action → String
  | .rollbackDeployment | .restartDeployment => "rollout"
  | .restartPod => "delete"
  | .scaleDeployment => "scale"
  | .cordonNode => "cordon"
  | .drainNode => "drain"

/-- **A command acts on one named object**: `kubectl` reads it as one of the rows, in a context
and a namespace of the allowlists. -/
structure ActsOnNamed (kubectl : String → Options) (reading : TextReading)
    (config : KubernetesConfig) (parameters : KubernetesParameters) (action : Action)
    (line : Command) : Prop where
  readAsMeant : ∃ row ∈ action.rows reading config parameters,
    line.arguments = (contextPieces parameters.contextOr ++ row).flatMap Piece.words ∧
      read (kubectl action.verb) line.arguments =
        some ((contextPieces parameters.contextOr ++ row).map Piece.meant)
  context : parameters.contextOr ∈ config.kubernetesAllowedContexts
  namespaceName : action.namespaced = true →
    parameters.namespaceOr ∈ config.kubernetesAllowedNamespaces

section

variable {kubectl : String → Options} {reading : TextReading} {config : KubernetesConfig}
  {cluster : Cluster} {parameters : KubernetesParameters} {action : Action} {row : List Piece}

theorem mem_rows_drain (h : row ∈ Action.rows reading config parameters .drainNode) :
    ∃ grace, row = Action.rows.drain config parameters grace := by
  simp only [Action.rows] at h
  split at h
  · cases h
  · exact ⟨_, List.mem_singleton.mp h⟩

theorem rows_known (hkubectl : KubectlOptions kubectl)
    (hrow : row ∈ action.rows reading config parameters) :
    ∀ piece ∈ contextPieces parameters.contextOr ++ row, piece.Known (kubectl action.verb) := by
  have hcontext : ∀ piece ∈ contextPieces parameters.contextOr,
      piece.Known (kubectl action.verb) := by
    unfold contextPieces
    split
    · simp
    · have hverb : action.verb ∈ ["rollout", "delete", "scale", "cordon", "drain"] := by
        cases action <;> decide
      simpa [Piece.Known] using ⟨by decide, hkubectl.context _ hverb⟩
  refine List.forall_mem_append.mpr ⟨hcontext, ?_⟩
  have hnamespace (verb : String) (hverb : verb ∈ ["rollout", "delete", "scale"]) :
      Piece.Known (kubectl verb) (.short 'n' "namespace" parameters.namespaceOr) :=
    ⟨by decide, hkubectl.namespaceName _ hverb⟩
  have htimeout (verb : String) (hverb : verb ∈ ["rollout", "drain"]) :
      Piece.Known (kubectl verb) (Action.rows.timeout config) :=
    ⟨by decide, by rw [hkubectl.timeout _ hverb]; rfl⟩
  have hoperand (verb word : String) : Piece.Known (kubectl verb) (.operand word) := trivial
  have hrollout (verb : String) (hrow : row ∈ Action.rows.rollout config parameters verb) :
      ∀ piece ∈ row, piece.Known (kubectl "rollout") := by
    simp only [Action.rows.rollout, List.mem_cons, List.not_mem_nil, or_false] at hrow
    rcases hrow with rfl | rfl <;>
      simp [hoperand, hnamespace "rollout" (by decide), htimeout "rollout" (by decide)]
  cases action with
  | rollbackDeployment | restartDeployment => exact hrollout _ hrow
  | restartPod =>
    obtain rfl := List.mem_singleton.mp hrow
    simp [Action.verb, hoperand, hnamespace "delete" (by decide)]
  | scaleDeployment =>
    obtain rfl := List.mem_singleton.mp hrow
    have hreplicas : Piece.Known (kubectl "scale")
        (.joined "replicas" (pyStr (parameters.replicas.getD .null))) :=
      ⟨by decide, by rw [hkubectl.replicas]; rfl⟩
    simp [Action.verb, hoperand, hnamespace "scale" (by decide), hreplicas]
  | cordonNode =>
    obtain rfl := List.mem_singleton.mp hrow
    simp [Action.verb, hoperand]
  | drainNode =>
    obtain ⟨grace, rfl⟩ := mem_rows_drain hrow
    have hgrace : Piece.Known (kubectl "drain") (.joined "grace-period" (toString grace)) :=
      ⟨by decide, by rw [hkubectl.gracePeriod]; rfl⟩
    have hdaemonsets : Piece.Known (kubectl "drain") (.flag "ignore-daemonsets") :=
      ⟨by decide, hkubectl.ignoreDaemonsets⟩
    have hdata : Piece.Known (kubectl "drain") (.flag "delete-emptydir-data") :=
      ⟨by decide, hkubectl.deleteEmptydirData⟩
    simp only [Action.rows.drain, List.forall_mem_cons]
    exact ⟨trivial, trivial, hdaemonsets, hdata, hgrace, htimeout "drain" (by decide), nofun⟩

theorem plain_getD_iff (name : Option String) :
    plain (name.getD "") = true ↔ ∀ word ∈ name, plain word = true := by
  cases name with
  | none => simp [plain]
  | some word => simp

/-- Of a row, only the name that stands alone may look like an option. -/
theorem rows_plain_iff (hrow : row ∈ action.rows reading config parameters) :
    (∀ piece ∈ contextPieces parameters.contextOr ++ row, piece.isPlain = true) ↔
      ∀ name ∈ action.bareName parameters, plain name = true := by
  have hcontext : ∀ piece ∈ contextPieces parameters.contextOr, piece.isPlain = true := by
    unfold contextPieces
    split <;> simp [Piece.isPlain]
  have hdeployment (name : String) : plain ("deployment/" ++ name) = true := by simp [plain]
  rw [List.forall_mem_append, and_iff_right hcontext]
  have hrollout (verb : String) (hverb : plain verb = true)
      (hrow : row ∈ Action.rows.rollout config parameters verb) :
      ∀ piece ∈ row, piece.isPlain = true := by
    simp only [Action.rows.rollout, List.mem_cons, List.not_mem_nil, or_false] at hrow
    have hwords : plain "rollout" = true ∧ plain "status" = true := by decide
    rcases hrow with rfl | rfl <;>
      simp [Piece.isPlain, hdeployment, hverb, hwords, Action.rows.timeout]
  cases action with
  | rollbackDeployment => simpa [Action.bareName] using hrollout _ (by decide) hrow
  | restartDeployment => simpa [Action.bareName] using hrollout _ (by decide) hrow
  | restartPod =>
    obtain rfl := List.mem_singleton.mp hrow
    have hwords : plain "delete" = true ∧ plain "pod" = true := by decide
    rw [Action.bareName, ← plain_getD_iff]
    simp [Piece.isPlain, hwords]
  | scaleDeployment =>
    obtain rfl := List.mem_singleton.mp hrow
    have hword : plain "scale" = true := by decide
    simp [Piece.isPlain, hdeployment, hword, Action.bareName]
  | cordonNode =>
    obtain rfl := List.mem_singleton.mp hrow
    have hword : plain "cordon" = true := by decide
    rw [Action.bareName, ← plain_getD_iff]
    simp [Piece.isPlain, hword]
  | drainNode =>
    obtain ⟨grace, rfl⟩ := mem_rows_drain hrow
    have hword : plain "drain" = true := by decide
    rw [Action.bareName, ← plain_getD_iff]
    simp [Piece.isPlain, hword, Action.rows.drain, Action.rows.timeout]

theorem mem_issued_of_left {α β : Type} {x : Acting α} {line : Command} (h : line ∈ x.issued)
    (f : α → Acting β) : line ∈ (x >>= f).issued := by
  change line ∈ (match x.result with
    | .ok a => (⟨x.issued ++ (f a).issued, (f a).result⟩ : Acting β)
    | .error failure => ⟨x.issued, .error failure⟩).issued
  split
  · exact List.mem_append_left _ h
  · exact h

theorem exists_issued_kubectlAll {kubeContext : String} {row : List String}
    {rows : List (List String)}
    (h : (Text.splitWords config.kubectlCommand.toList).isOk = true) :
    ∃ line, line ∈ (kubectlAll config cluster kubeContext (row :: rows)).issued := by
  cases hwords : Text.splitWords config.kubectlCommand.toList with
  | error text =>
    rw [hwords] at h
    cases h
  | ok words =>
    have hfirst : ∃ line, line ∈ (kubectl config cluster kubeContext row).issued := by
      unfold kubectl
      rw [hwords]
      exact ⟨_, List.mem_singleton_self _⟩
    obtain ⟨line, hline⟩ := hfirst
    exact ⟨line, mem_issued_of_left hline _⟩

theorem exists_issued (h : Reaches reading config parameters action) {name : String}
    (hname : name ∈ action.bareName parameters) (hne : name ≠ "") :
    ∃ line, line ∈ (action.call reading config cluster parameters).issued := by
  have hlive : (!config.kubernetesLiveExecutionEnabled) = false := by simp [h.live]
  have hcontexts := List.ne_nil_of_mem h.context
  have hgetD (named : Option String) (hnamed : name ∈ named) : named.getD "" ≠ "" := by
    rwa [Option.mem_def.mp hnamed]
  cases action with
  | restartPod =>
    have hnamespaces := List.ne_nil_of_mem (h.namespaceName rfl)
    unfold Action.call restartPod
    rw [if_neg (hgetD parameters.podName hname), hlive, if_neg Bool.false_ne_true,
      issued_liveResult]
    unfold validateContextAndNamespace
    rw [if_neg hcontexts, if_neg hnamespaces, if_neg (not_not.mpr h.context),
      if_neg (not_not.mpr (h.namespaceName rfl))]
    exact exists_issued_kubectlAll h.command
  | cordonNode =>
    unfold Action.call cordonNode
    rw [if_neg (hgetD parameters.nodeName hname), hlive, if_neg Bool.false_ne_true,
      issued_liveResult]
    unfold validateContextOnly
    rw [if_neg hcontexts, if_neg (not_not.mpr h.context)]
    exact exists_issued_kubectlAll h.command
  | drainNode =>
    have hgrace := h.grace rfl
    cases hread : pyInt reading (parameters.gracePeriodSeconds.getD (.int 60)) with
    | error e =>
      rw [hread] at hgrace
      cases hgrace
    | ok grace =>
      unfold Action.call drainNode
      rw [if_neg (hgetD parameters.nodeName hname), hread, hlive]
      change ∃ line, line ∈ (liveResult parameters.contextOr _ _).issued
      unfold validateContextOnly
      rw [if_neg hcontexts, if_neg (not_not.mpr h.context)]
      exact exists_issued_kubectlAll h.command
  | _ => cases hname

/-- **The names decide.**  Every command acts on one named object exactly where the name that
stands alone does not look like an option. -/
theorem acts_on_named_iff (hkubectl : KubectlOptions kubectl) :
    (∀ cluster, ∀ line ∈ (action.call reading config cluster parameters).issued,
      ActsOnNamed kubectl reading config parameters action line) ↔
      (Reaches reading config parameters action →
        ∀ name ∈ action.bareName parameters, plain name = true) := by
  constructor
  · intro hacts hreaches name hname
    by_cases hne : name = ""
    · rw [hne]
      rfl
    · obtain ⟨line, hissued⟩ : ∃ line, line ∈
          (action.call reading config (fun _ => .exited 0 "" "") parameters).issued :=
        exists_issued hreaches hname hne
      obtain ⟨row, hrow, hwords, hread⟩ := (hacts _ line hissued).readAsMeant
      rw [hwords, read_eq_meant_iff (rows_known hkubectl hrow)] at hread
      exact (rows_plain_iff hrow).mp hread name hname
  · intro hnames cluster line hissued
    obtain ⟨hreaches, words, -, row, hrow, rfl⟩ := mem_issued_call hissued
    refine { readAsMeant := ⟨row, hrow, rfl, ?_⟩, context := hreaches.context,
             namespaceName := hreaches.namespaceName }
    exact (read_eq_meant_iff (rows_known hkubectl hrow)).mpr
      ((rows_plain_iff hrow).mpr (hnames hreaches))

end

def knownOptions (verb : String) : Options where
  long name :=
    if name ∈ ["context", "namespace", "kubeconfig", "server", "selector"] then some true
    else if name ∈ ["timeout", "replicas", "grace-period"] ∧ verb ≠ "cordon" then some true
    else if name ∈ ["all", "all-namespaces", "ignore-daemonsets", "delete-emptydir-data"] then
      some false
    else none
  short letter :=
    if letter = 'n' then some ("namespace", true)
    else if letter = 'l' then some ("selector", true)
    else if letter = 's' then some ("server", true)
    else if letter = 'A' then some ("all-namespaces", false)
    else none

theorem knownOptions_spec : KubectlOptions knownOptions where
  context := by decide
  namespaceName := by decide
  timeout := by decide
  replicas := by decide
  ignoreDaemonsets := by decide
  deleteEmptydirData := by decide
  gracePeriod := by decide

def liveConfig : KubernetesConfig where
  kubernetesLiveExecutionEnabled := true
  kubernetesAllowedContexts := ["staging"]
  kubernetesAllowedNamespaces := ["default"]
  kubectlCommand := "kubectl"
  kubernetesRolloutTimeoutSeconds := 120

def podParameters (podName : String) : KubernetesParameters where
  podName := some podName
  namespaceName := some "default"
  kubeContext := some "staging"

theorem acts_on_named_sample :
    Reaches noReading liveConfig (podParameters "api-7d9") .restartPod ∧
    ∀ cluster, ∀ line ∈ (Action.restartPod.call noReading liveConfig cluster
        (podParameters "api-7d9")).issued,
      ActsOnNamed knownOptions noReading liveConfig (podParameters "api-7d9") .restartPod line := by
  refine ⟨?_, (acts_on_named_iff knownOptions_spec).mpr fun _ name hname => ?_⟩
  · constructor <;> decide
  · obtain rfl := Option.some.inj hname
    decide

/-- **Every pod of the namespace is deleted** where the name of the one pod is `--all`. -/
theorem every_pod_deleted :
    (restartPod liveConfig (fun _ => .exited 0 "" "") (podParameters "--all")).issued =
        [⟨["kubectl"], ["--context", "staging", "delete", "pod", "--all", "-n", "default"]⟩] ∧
      read (knownOptions "delete")
          ["--context", "staging", "delete", "pod", "--all", "-n", "default"] =
        some [.option "context" "staging", .operand "delete", .operand "pod", .flag "all",
          .option "namespace" "default"] := by
  exact ⟨by decide, by decide⟩

end OrbitalMesh.Actuators
