import OrbitalMesh.ControlPlane.Interruptions

/-!
# The kill switch

`apply_kill_switch` with `force_approval_gate` sets a flag of the configuration and
then goes over the controls of the registered runs: it turns their automatic mode
off and sets their pause point.  Out of its sight are a run that is being created
and what is in the queue of a run already.  Where neither happens, a run that has
not left its gate is executed only after a later approval (`kill_switch_holds`).
-/

namespace OrbitalMesh

open Atomic Atomic.Raising

/-- A run with the configuration that the switch changes. -/
structure SwitchState where
  mesh : MeshState
  forceApprovalGate : Bool
  defaultSteeringMode : String

/-- What `create_run` asks and records beside the control and the flags. -/
inductive CreationQuestion where
  /-- `self._run_worker_stop.is_set()` -/
  | stopped
  | ensureDefaultGoal
  | resolveSignal (payload : Dict)
  /-- `_maybe_attach_to_correlated_run(...) is not None` -/
  | attachToCorrelatedRun (payload signal : Dict)
  | buildOwnershipBoundary (signal : Dict)
  | createRunSession (steeringMode : Json) (autoMode : Bool) (pausePoints : List String)
      (signal boundary : Dict)
  /-- `_build_run_admission(...)["decision"] == "admitted"` -/
  | buildRunAdmission (boundary : Dict)
  | recordBlocked
  | recordQueued (steeringMode : Json) (pausePoints : List String) (boundary : Dict)
  /-- `self._run_queue.put_nowait(...)` does not raise `queue.Full` -/
  | putNowait (signal : Dict)
  | recordOverload

/-- What each question is answered with, when nothing is raised. -/
abbrev CreationQuestion.Value : CreationQuestion → Type
  | .stopped => Bool
  | .resolveSignal _ => Dict
  | .attachToCorrelatedRun _ _ => Bool
  | .buildOwnershipBoundary _ => Dict
  | .buildRunAdmission _ => Bool
  | .putNowait _ => Bool
  | _ => Unit

inductive SwitchOp where
  | run (op : RunOp)
  | inquire (question : CreationQuestion)
  /-- `self.config.default_steering_mode` -/
  | defaultSteeringMode
  /-- `self.config.force_approval_gate` -/
  | forceApprovalGate
  /-- `self.controls[run_id] = RunControl(...)` -/
  | register (autoMode : Bool) (pausePoints : List String)
  | setForceApprovalGate
  | setDefaultSteeringMode (mode : String)
  /-- the loop over `self.controls` -/
  | forceControls
  /-- `self.state_store.put_artifact(artifact)`, after which the switch returns -/
  | putArtifact (actions : List String)

abbrev SwitchOp.Answer : SwitchOp → Type
  | .run op => op.Answer
  | .inquire question => Except PyError question.Value
  | .defaultSteeringMode => String
  | .forceApprovalGate => Bool
  | .putArtifact _ => Except PyError Unit
  | _ => Unit

variable (config : StoreConfig) (op : SwitchOp) (hash : MerkleHash)

def switchStep :
    (op : SwitchOp) → SwitchState → op.Answer → SwitchState → Prop
  | .run op, s, answer, t => ∃ mesh, runStep config hash op s.mesh answer mesh ∧ t = { s with mesh }
  | .inquire _, s, _, t => ∃ store, t = { s with mesh := { s.mesh with store } }
  | .defaultSteeringMode, s, mode, t => mode = s.defaultSteeringMode ∧ t = s
  | .forceApprovalGate, s, forced, t => forced = s.forceApprovalGate ∧ t = s
  | .register autoMode pausePoints, s, _, t =>
    t = { s with mesh := { s.mesh with
      control := ⟨[], autoMode, pausePoints.eraseDups⟩
      tracked := true } }
  | .setForceApprovalGate, s, _, t => t = { s with forceApprovalGate := true }
  | .setDefaultSteeringMode mode, s, _, t => t = { s with defaultSteeringMode := mode }
  | .forceControls, s, _, t =>
    ∃ mesh, recordStep config hash .forceApprovalGate s.mesh () mesh ∧ t = { s with mesh }
  | .putArtifact _, s, _, t => ∃ store, t = { s with mesh := { s.mesh with store } }

/-- A call that may raise. -/
abbrev Switching (α : Type) := Raising SwitchOp SwitchOp.Answer PyError α

def onRun {α : Type} (x : Coord α) : Switching α :=
  (Prog.embed SwitchOp.run x : Prog SwitchOp SwitchOp.Answer (Except PyError α))

/-- One question of `create_run`. -/
def inquire (question : CreationQuestion) : Switching question.Value :=
  (Prog.issue (SwitchOp.inquire question) :
    Prog SwitchOp SwitchOp.Answer (Except PyError question.Value))

def change : Switching op.Answer := Raising.perform op

def normalizePausePoints : Json → Except PyError (List String)
  | .arr items => do
    let kept ← items.filterM fun item => inTexts item pauseableStages
    return kept.map pyStr
  | .obj members => return (members.map (·.1)).filter pauseableStages.contains
  | .str text => return (text.toList.map String.singleton).filter pauseableStages.contains
  | _ => .error ⟨.typeError, "object is not iterable"⟩

/-- `payload.get("steering_mode", default)`. -/
def requestedMode (payload : Dict) (default : String) : Json :=
  (payload.get? "steering_mode").getD (.str default)

/-- `create_run`, for the run with the id that the store gives it: the signal that its worker
starts with, if it is queued. -/
def createRun (defaultPausePoint : String) (payload : Dict) : Switching (Option Dict) := do
  if ← inquire .stopped then
    Raising.ofExcept (.error ⟨.runtimeError, "run coordinator is stopped"⟩)
  else
    let default ← change .defaultSteeringMode
    let forced ← change .forceApprovalGate
    let steeringMode : Json :=
      if forced then .str "approval_gate" else requestedMode payload default
    let autoMode := decide (steeringMode = .str "interruptible_auto")
    let pausePoints ← Raising.ofExcept (normalizePausePoints
      ((payload.get? "pause_points").getD
        (.arr (if autoMode then [] else [.str defaultPausePoint]))))
    if !truthyAt payload "goal_id" then inquire .ensureDefaultGoal else pure ()
    let signal ← inquire (.resolveSignal payload)
    if ← inquire (.attachToCorrelatedRun payload signal) then
      return none
    else
      let boundary ← inquire (.buildOwnershipBoundary signal)
      inquire (.createRunSession steeringMode autoMode pausePoints signal boundary)
      if ← inquire (.buildRunAdmission boundary) then
        change (.register autoMode pausePoints)
        inquire (.recordQueued steeringMode pausePoints boundary)
        if ← inquire (.putNowait signal) then
          return some signal
        else
          inquire .recordOverload
          onRun (record (perform .finalizeRun))
          return none
      else
        inquire .recordBlocked
        return none

/-- `config.force_approval_gate = True` and what follows it. -/
def forceGate : Switching Unit := do
  change .setForceApprovalGate
  change (.setDefaultSteeringMode "approval_gate")
  change .forceControls

variable (stopWatchers disable clear force : Bool)

/-- The list `actions` of `apply_kill_switch`. -/
def switchActions : List String :=
  (if stopWatchers then ["watchers_stopped"] else []) ++
    (if disable then ["live_execution_disabled"] else []) ++
    (if clear then ["namespace_allowlist_cleared"] else []) ++
    (if force then ["approval_gate_forced"] else [])

theorem switchActions_forced :
    (switchActions stopWatchers disable clear force).contains "approval_gate_forced" = force := by
  cases stopWatchers <;> cases disable <;> cases clear <;> cases force <;> rfl

/-- `apply_kill_switch`. -/
def pullKillSwitch (payload : Dict) : Switching Unit := do
  let watchers := valueAt payload "watchers"
  let stopWatchers ← if payload.get? "stop_watchers" = some (.bool true) then pure true
    else Raising.ofExcept (inTexts watchers ["stop", "pause"])
  let disable := decide (payload.get? "disable_live_execution" = some (.bool true) ∨
    payload.get? "live_execution_enabled" = some (.bool false))
  let clear := decide (payload.get? "clear_namespace_allowlist" = some (.bool true))
  let force := decide (payload.get? "force_approval_gate" = some (.bool true))
  if stopWatchers then onRun (record (ask .stopWatchers)) else pure ()
  if disable then onRun (record (ask .disableLiveExecution)) else pure ()
  if clear then onRun (record (ask .clearNamespaceAllowlist)) else pure ()
  if force then forceGate else pure ()
  Prog.issue (SwitchOp.putArtifact (switchActions stopWatchers disable clear force))

section

variable (hash : MerkleHash) (runId : String)

def createAndExecute (defaultPausePoint : String) (payload : Dict) (modes : RunModes)
    (scenarioKey : Option String) (rounds : Nat) : Switching Unit := do
  match ← createRun defaultPausePoint payload with
  | none => return ()
  | some signal => onRun (executeRun hash runId modes signal scenarioKey rounds)

def OperatorRequest.switching : OperatorRequest → Switching Unit
  | .steer cap payload => onRun (record (steerRun hash runId cap payload))
  | .killSwitch payload => pullKillSwitch payload

end

/-- The sections of a run, of its operators and of the switch, in their order. -/
abbrev SwitchTrace := List (Event SwitchOp SwitchOp.Answer)

def putBy : Event SwitchOp SwitchOp.Answer → Option SteeringCommand
  | ⟨.run (.record (.pushCommand command)), _⟩ => some command
  | _ => none

def putInto (trace : SwitchTrace) : List SteeringCommand := trace.filterMap putBy

def looksAtControl : Event SwitchOp SwitchOp.Answer → Bool
  | ⟨.run (.record .pausePoints), _⟩ => true
  | ⟨.run (.record .autoMode), _⟩ => true
  | ⟨.run (.record .hasCommands), _⟩ => true
  | ⟨.run .popCommand, _⟩ => true
  | _ => false

def forcesControls : Event SwitchOp SwitchOp.Answer → Bool
  | ⟨.forceControls, _⟩ => true
  | _ => false

def switchReturns : Event SwitchOp SwitchOp.Answer → Bool
  | ⟨.putArtifact actions, .ok ()⟩ => actions.contains "approval_gate_forced"
  | _ => false

def registers : Event SwitchOp SwitchOp.Answer → Bool
  | ⟨.register _ _, _⟩ => true
  | _ => false

/-- The creation of the run finds the flag not set. -/
def findsUnforced : Event SwitchOp SwitchOp.Answer → Bool
  | ⟨.forceApprovalGate, false⟩ => true
  | _ => false

/-- The creation of the run has found the flag not set, and the mode that it takes
is `interruptible_auto`. -/
def SettledOnAuto (payload : Dict) (past : SwitchTrace) : Prop :=
  ∃ before e after default, past = before ++ e :: after ∧ findsUnforced e = true ∧
    ⟨.defaultSteeringMode, default⟩ ∈ before ∧
    requestedMode payload default = .str "interruptible_auto"

/-- A run is executed after the switch has returned only if its worker has not
looked at the control since, or an approval has been issued since. -/
def HeldSince (past : SwitchTrace) : Prop :=
  ∀ before e after, past = before ++ e :: after → switchReturns e = true →
    after.any looksAtControl = true → ∃ approval ∈ putInto after, approval.Approves

/-- When the switch goes over the controls, the run is registered or being created; when it
returns, no approval is in the queue; and the mode is not turned on after it. -/
def Sees (payload : Dict) : (op : SwitchOp) → SwitchState × SwitchTrace → op.Answer → Prop
  | .forceControls, s, _ => s.1.mesh.tracked = true ∨
      s.2.any registers = false ∧ ¬ SettledOnAuto payload s.2
  | .putArtifact actions, s, .ok () => actions.contains "approval_gate_forced" = true →
      ∀ command ∈ s.1.mesh.control.commands, ¬ command.Approves
  | .run (.record (.setAutoMode enabled)), s, _ =>
    s.2.any forcesControls = true → enabled = false
  | _, _, _ => True

/-- The sections of a run in sight of the switch. -/
def seenStep (payload : Dict) (op : SwitchOp) (s : SwitchState × SwitchTrace) (r : op.Answer)
    (t : SwitchState × SwitchTrace) : Prop :=
  Sees payload op s r ∧ traced (switchStep config hash) op s r t

/-- What holds whatever happens. -/
structure Forced (payload : Dict) (s : SwitchState × SwitchTrace) : Prop where
  flag : s.2.any forcesControls = true → s.1.forceApprovalGate = true
  off : s.2.any forcesControls = true → s.2.any registers = true →
    s.1.mesh.control.autoMode = false
  returned : s.2.any switchReturns = true → s.2.any forcesControls = true
  pending : ∀ before e after, s.2 = before ++ e :: after → switchReturns e = true →
    ∀ command ∈ s.1.mesh.control.commands, command.Approves → command ∈ putInto after
  unregistered : s.2.any registers = false → s.1.mesh.tracked = false ∧
    (SettledOnAuto payload s.2 → s.2.any forcesControls = false)

section

variable {payload : Dict} {s t : SwitchState × SwitchTrace} {e : Event SwitchOp SwitchOp.Answer}
variable {past more : SwitchTrace}

theorem split_append {α : Type} {xs ys before after : List α} {x : α}
    (h : xs ++ ys = before ++ x :: after) :
    (∃ front, xs = before ++ x :: front ∧ after = front ++ ys) ∨
      ∃ front, before = xs ++ front ∧ ys = front ++ x :: after := by
  rcases List.append_eq_append_iff.mp h with ⟨front, hbefore, hys⟩ | ⟨front, hxs, hrest⟩
  · exact .inr ⟨front, hbefore, hys⟩
  · cases front with
    | nil => exact .inr ⟨[], by simpa using hxs.symm, by simpa using hrest.symm⟩
    | cons first front =>
      obtain ⟨rfl, hafter⟩ := List.cons.inj hrest
      exact .inl ⟨front, hxs, hafter⟩

@[simp] theorem putInto_append (left right : SwitchTrace) :
    putInto (left ++ right) = putInto left ++ putInto right := List.filterMap_append

theorem SettledOnAuto.append (h : SettledOnAuto payload past) :
    SettledOnAuto payload (past ++ more) := by
  obtain ⟨before, e, after, default, rfl, hfinds, hdefault, hmode⟩ := h
  exact ⟨before, e, after ++ more, default, by simp, hfinds, hdefault, hmode⟩

theorem SettledOnAuto.of_concat (h : SettledOnAuto payload (past ++ [e]))
    (he : findsUnforced e = false) : SettledOnAuto payload past := by
  obtain ⟨before, found, after, default, hpast, hfinds, hdefault, hmode⟩ := h
  rcases split_append hpast with ⟨front, rfl, -⟩ | ⟨front, -, hlast⟩
  · exact ⟨before, found, front, default, rfl, hfinds, hdefault, hmode⟩
  · have hfound : found ∈ [e] := by rw [hlast]; simp
    rw [List.mem_singleton.mp hfound, he] at hfinds
    cases hfinds

theorem HeldSince.append (h : HeldSince past) (hmore : more.any looksAtControl = false) :
    HeldSince (past ++ more) := by
  intro before e after hpast hreturns hlooks
  rcases split_append hpast with ⟨front, hfront, rfl⟩ | ⟨front, -, hlast⟩
  · rw [List.any_append, hmore, Bool.or_false] at hlooks
    obtain ⟨approval, hput, happroves⟩ := h before e front hfront hreturns hlooks
    exact ⟨approval, by simp [hput], happroves⟩
  · rw [hlast, List.any_append, List.any_cons, hlooks] at hmore
    simp at hmore

theorem heldSince_of_not_returned (h : past.any switchReturns = false) : HeldSince past := by
  rintro before e after rfl hreturns -
  simp [hreturns] at h

theorem Forced.pending_concat (h : Forced payload s) (hpast : t.2 = s.2 ++ [e])
    (hqueue : ∀ command ∈ t.1.mesh.control.commands,
      command ∈ s.1.mesh.control.commands ∨ putBy e = some command)
    (hreturns : switchReturns e = true →
      ∀ command ∈ t.1.mesh.control.commands, ¬ command.Approves) :
    ∀ before m after, t.2 = before ++ m :: after → switchReturns m = true →
      ∀ command ∈ t.1.mesh.control.commands, command.Approves → command ∈ putInto after := by
  intro before m after hsplit hm command hcommand happroves
  rw [hpast] at hsplit
  rcases split_append hsplit with ⟨front, hfront, rfl⟩ | ⟨front, -, hlast⟩
  · rw [putInto_append]
    rcases hqueue command hcommand with hqueued | hput
    · exact List.mem_append_left _ (h.pending before m front hfront hm command hqueued happroves)
    · exact List.mem_append_right _ (List.mem_filterMap.mpr ⟨e, by simp, hput⟩)
  · have hmem : m ∈ [e] := by rw [hlast]; simp
    rw [List.mem_singleton.mp hmem] at hm
    exact absurd happroves (hreturns hm command hcommand)

theorem Forced.extend (h : Forced payload s) (hpast : t.2 = s.2 ++ [e])
    (hforces : forcesControls e = false) (hreturns : switchReturns e = false)
    (hregisters : registers e = false) (hfinds : findsUnforced e = false)
    (hflag : s.1.forceApprovalGate = true → t.1.forceApprovalGate = true)
    (hoff : s.2.any forcesControls = true → s.1.mesh.control.autoMode = false →
      t.1.mesh.control.autoMode = false)
    (hqueue : ∀ command ∈ t.1.mesh.control.commands,
      command ∈ s.1.mesh.control.commands ∨ putBy e = some command)
    (htracked : s.1.mesh.tracked = false → t.1.mesh.tracked = false) : Forced payload t := by
  have hany : ∀ {p : Event SwitchOp SwitchOp.Answer → Bool}, p e = false →
      t.2.any p = s.2.any p := by
    intro p hp
    simp [hpast, hp]
  have hpending := h.pending_concat hpast hqueue (by simp [hreturns])
  refine ⟨?_, ?_, ?_, hpending, ?_⟩
  · rw [hany hforces]
    exact fun hforced => hflag (h.flag hforced)
  · rw [hany hforces, hany hregisters]
    exact fun hforced hregistered => hoff hforced (h.off hforced hregistered)
  · rw [hany hreturns, hany hforces]
    exact h.returned
  · rw [hany hregisters, hany hforces]
    intro hunregistered
    obtain ⟨huntracked, hsettled⟩ := h.unregistered hunregistered
    refine ⟨htracked huntracked, fun hauto => hsettled ?_⟩
    rw [hpast] at hauto
    exact hauto.of_concat hfinds

end

section

variable {config : StoreConfig} {hash : MerkleHash} {payload : Dict}
variable {s t : SwitchState × SwitchTrace}

theorem runStep_control {op : RunOp} {s t : MeshState} {r : op.Answer}
    (h : runStep config hash op s r t) :
    (t.control.autoMode = s.control.autoMode ∨ t.control.autoMode = false ∨
        op = .record (.setAutoMode t.control.autoMode)) ∧
      (∀ command ∈ t.control.commands, command ∈ s.control.commands ∨
        op = .record (.pushCommand command)) ∧
      (s.tracked = false → t.tracked = false) := by
  have hsame : t.control = s.control → t.tracked = s.tracked →
      (t.control.autoMode = s.control.autoMode ∨ t.control.autoMode = false ∨
        op = .record (.setAutoMode t.control.autoMode)) ∧
      (∀ command ∈ t.control.commands, command ∈ s.control.commands ∨
        op = .record (.pushCommand command)) ∧ (s.tracked = false → t.tracked = false) := by
    intro hcontrol htracked
    rw [hcontrol, htracked]
    exact ⟨.inl rfl, fun _ hcommand => .inl hcommand, id⟩
  cases op with
  | record op =>
    cases op with
    | store op =>
      match r with
      | .error e =>
        obtain rfl : t = s := h
        exact hsame rfl rfl
      | .ok value =>
        obtain ⟨store, -, rfl⟩ := h
        exact hsame rfl rfl
    | ask question =>
      obtain ⟨store, rfl⟩ := h
      exact hsame rfl rfl
    | getControl | pausePoints | autoMode | hasCommands =>
      obtain ⟨-, rfl⟩ := h
      exact hsame rfl rfl
    | wait =>
      obtain rfl : t = s := h
      exact hsame rfl rfl
    | addPausePoint stage | setPausePoints stages =>
      obtain rfl := h
      exact ⟨.inl rfl, fun _ hcommand => .inl hcommand, id⟩
    | setAutoMode enabled =>
      obtain rfl := h
      exact ⟨.inr (.inr rfl), fun _ hcommand => .inl hcommand, id⟩
    | pushCommand command =>
      obtain rfl := h
      refine ⟨.inl rfl, fun other hother => ?_, id⟩
      rcases List.mem_append.mp hother with hother | hother
      · exact .inl hother
      · exact .inr (by rw [List.mem_singleton.mp hother])
    | forceApprovalGate =>
      obtain rfl := h
      split
      · exact ⟨.inr (.inl rfl), fun _ hcommand => .inl hcommand, id⟩
      · exact ⟨.inl rfl, fun _ hcommand => .inl hcommand, id⟩
    | finalizeRun =>
      obtain rfl := h
      exact ⟨.inl rfl, fun _ hcommand => .inl hcommand, fun _ => rfl⟩
  | popCommand =>
    simp only [runStep] at h
    split at h
    · obtain ⟨-, rfl⟩ := h
      exact hsame rfl rfl
    · next command rest hqueue =>
      obtain ⟨-, rfl⟩ := h
      refine ⟨.inl rfl, fun other hother => .inl ?_, id⟩
      rw [hqueue]
      exact List.mem_cons_of_mem _ hother
  | evaluate trigger decision allow | execute decision evaluation =>
    obtain ⟨store, rfl⟩ := h
    exact hsame rfl rfl

section

variable (h : Forced payload s)

include h

theorem Forced.run {op : RunOp} {r : op.Answer}
    (hstep : seenStep config hash payload (.run op) s r t) : Forced payload t := by
  obtain ⟨hsees, ⟨mesh, hrun, ht⟩, hpast⟩ := hstep
  obtain ⟨hmode, hqueue, htracked⟩ := runStep_control hrun
  refine h.extend hpast rfl rfl rfl rfl (by rw [ht]; exact id) ?_ ?_ (by rw [ht]; exact htracked)
  · rw [ht]
    intro hforced hoff
    rcases hmode with hmode | hmode | rfl
    · exact hmode.trans hoff
    · exact hmode
    · exact hsees hforced
  · rw [ht]
    intro command hcommand
    rcases hqueue command hcommand with hqueued | rfl
    · exact .inl hqueued
    · exact .inr rfl

theorem Forced.quiet {e : Event SwitchOp SwitchOp.Answer}
    (hpast : t.2 = s.2 ++ [e]) (hforces : forcesControls e = false)
    (hreturns : switchReturns e = false) (hregisters : registers e = false)
    (hfinds : findsUnforced e = false) (hcontrol : t.1.mesh.control = s.1.mesh.control)
    (htracked : t.1.mesh.tracked = s.1.mesh.tracked)
    (hflag : s.1.forceApprovalGate = true → t.1.forceApprovalGate = true) : Forced payload t := by
  refine h.extend hpast hforces hreturns hregisters hfinds hflag ?_ ?_ ?_
  · rw [hcontrol]
    exact fun _ hoff => hoff
  · rw [hcontrol]
    exact fun command hcommand => .inl hcommand
  · rw [htracked]
    exact id

variable {r : Unit}

theorem Forced.forced (hflag : s.1.forceApprovalGate = true)
    (hstep : seenStep config hash payload .forceControls s r t) : Forced payload t := by
  obtain ⟨hsees, ⟨mesh, hforce, ht⟩, hpast⟩ := hstep
  have hmesh : mesh = _ := hforce
  refine ⟨fun _ => by rw [ht]; exact hflag, ?_, ?_, ?_, ?_⟩
  · intro _ hregistered
    have hregistered : s.2.any registers = true := by simpa [hpast, registers] using hregistered
    rcases hsees with htracked | ⟨hunregistered, -⟩
    · rw [ht, hmesh, if_pos htracked]
    · rw [hunregistered] at hregistered
      cases hregistered
  · exact fun _ => by simp [hpast, forcesControls]
  · refine h.pending_concat hpast ?_ fun hreturns => nomatch hreturns
    rw [ht, hmesh]
    intro command hcommand
    split at hcommand <;> exact .inl hcommand
  · intro hunregistered
    have hunregistered : s.2.any registers = false := by
      simpa [hpast, registers] using hunregistered
    obtain ⟨huntracked, -⟩ := h.unregistered hunregistered
    rcases hsees with htracked | ⟨-, hnot⟩
    · rw [huntracked] at htracked
      cases htracked
    · refine ⟨?_, fun hauto => absurd ?_ hnot⟩
      · rw [ht, hmesh, if_neg (by simp [huntracked])]
        exact huntracked
      · rw [hpast] at hauto
        exact hauto.of_concat rfl

theorem Forced.finished {actions : List String} {r : Except PyError Unit}
    (hforced : actions.contains "approval_gate_forced" = true → s.2.any forcesControls = true)
    (hstep : seenStep config hash payload (.putArtifact actions) s r t) : Forced payload t := by
  obtain ⟨hsees, ⟨store, ht⟩, hpast⟩ := hstep
  by_cases hreturns : switchReturns ⟨.putArtifact actions, r⟩ = true
  · match r with
    | .error e => cases hreturns
    | .ok () =>
      have hforced := hforced hreturns
      refine ⟨fun _ => ?_, ?_, fun _ => by simp [hpast, hforced], ?_, ?_⟩
      · rw [ht]
        exact h.flag hforced
      · intro _ hregistered
        rw [ht]
        exact h.off hforced (by simpa [hpast, registers] using hregistered)
      · refine h.pending_concat hpast ?_ fun _ => ?_
        · rw [ht]
          exact fun command hcommand => .inl hcommand
        · rw [ht]
          exact hsees hreturns
      · intro hunregistered
        obtain ⟨huntracked, hsettled⟩ :=
          h.unregistered (by simpa [hpast, registers] using hunregistered)
        refine ⟨by rw [ht]; exact huntracked, fun hauto => ?_⟩
        rw [hpast] at hauto
        rw [hsettled (hauto.of_concat rfl)] at hforced
        cases hforced
  · exact h.quiet hpast rfl (by simpa using hreturns) rfl rfl (by rw [ht]) (by rw [ht])
      (by rw [ht]; exact id)

theorem Forced.registered {autoMode : Bool} {pausePoints : List String}
    (hauto : s.2.any forcesControls = true → autoMode = false)
    (hstep : seenStep config hash payload (.register autoMode pausePoints) s r t) :
    Forced payload t ∧ t.2.any registers = true := by
  obtain ⟨-, hrun, hpast⟩ := hstep
  have ht : t.1 = _ := hrun
  have hforces : t.2.any forcesControls = s.2.any forcesControls := by
    simp [hpast, forcesControls]
  have hregistered : t.2.any registers = true := by simp [hpast, registers]
  refine ⟨⟨?_, ?_, ?_, ?_, ?_⟩, hregistered⟩
  · rw [hforces, ht]
    exact h.flag
  · rw [hforces, ht]
    exact fun hforced _ => hauto hforced
  · rw [hforces]
    intro hreturns
    exact h.returned (by simpa [hpast, switchReturns] using hreturns)
  · intro before m after _ _ command hcommand
    rw [ht] at hcommand
    cases hcommand
  · intro hunregistered
    rw [hregistered] at hunregistered
    cases hunregistered

theorem Forced.looked {r : Bool}
    (hstep : seenStep config hash payload .forceApprovalGate s r t) : Forced payload t := by
  obtain ⟨-, ⟨hr, ht⟩, hpast⟩ := hstep
  match r with
  | true =>
    exact h.quiet hpast rfl rfl rfl rfl (by rw [ht]) (by rw [ht]) (by rw [ht]; exact id)
  | false =>
    have hnot : s.2.any forcesControls = false := by
      rw [Bool.eq_false_iff]
      exact fun hforced => absurd (hr.trans (h.flag hforced)) (by decide)
    have hforces : t.2.any forcesControls = false := by simp [hpast, forcesControls, hnot]
    refine ⟨?_, ?_, ?_, ?_, ?_⟩
    · rw [hforces]
      exact fun hforced => nomatch hforced
    · rw [hforces]
      exact fun hforced => nomatch hforced
    · intro hreturns
      have hreturned := h.returned (by simpa [hpast, switchReturns] using hreturns)
      rw [hnot] at hreturned
      cases hreturned
    · refine h.pending_concat hpast ?_ fun hreturns => nomatch hreturns
      rw [ht]
      exact fun command hcommand => .inl hcommand
    · intro hunregistered
      obtain ⟨huntracked, -⟩ := h.unregistered (by simpa [hpast, registers] using hunregistered)
      exact ⟨by rw [ht]; exact huntracked, fun _ => hforces⟩

end

end

/-- What happens beside the worker, and in its own quiet sections. -/
structure Sways (payload : Dict) (s t : SwitchState × SwitchTrace) : Prop where
  beside : Beside s.1.mesh t.1.mesh
  past : ∃ more, t.2 = s.2 ++ more ∧ more.any looksAtControl = false ∧
    more.any registers = false
  forced : Forced payload s → Forced payload t

variable {payload : Dict}

theorem Sways.refl (s : SwitchState × SwitchTrace) : Sways payload s s :=
  ⟨.refl _, ⟨[], by simp, rfl, rfl⟩, id⟩

variable {s t : SwitchState × SwitchTrace} {trace : SwitchTrace}

theorem Sways.trans {u : SwitchState × SwitchTrace} (h : Sways payload s t)
    (h' : Sways payload t u) : Sways payload s u := by
  obtain ⟨more, hpast, hlooks, hregisters⟩ := h.past
  obtain ⟨more', hpast', hlooks', hregisters'⟩ := h'.past
  refine ⟨h.beside.trans h'.beside, ⟨more ++ more', ?_, ?_, ?_⟩, fun hs => h'.forced (h.forced hs)⟩
  · rw [hpast', hpast, List.append_assoc]
  · rw [List.any_append, hlooks, hlooks', Bool.or_false]
  · rw [List.any_append, hregisters, hregisters', Bool.or_false]

theorem Sways.of_step {e : Event SwitchOp SwitchOp.Answer} (hbeside : Beside s.1.mesh t.1.mesh)
    (hpast : t.2 = s.2 ++ [e]) (hlooks : looksAtControl e = false)
    (hregisters : registers e = false) (hforced : Forced payload s → Forced payload t) :
    Sways payload s t :=
  ⟨hbeside, ⟨[e], hpast, by simp [hlooks], by simp [hregisters]⟩, hforced⟩

section

variable (config : StoreConfig) (hash : MerkleHash) (payload : Dict)

def switchWorker : Discipline SwitchOp SwitchOp.Answer (SwitchState × SwitchTrace) where
  step := seenStep config hash payload
  rely := Sways payload
  allowed
    | .run (.execute _ _), s => HeldSince s.2
    | _, _ => True
  earn _ _ := 0
  spend _ _ := 0
  rely_refl := .refl
  rely_trans := .trans

/-- The operators have quiet sections; the switch sets its flag before it goes over
the controls, and goes over them before it says so. -/
def switchOperators : Discipline SwitchOp SwitchOp.Answer (SwitchState × SwitchTrace) where
  step := seenStep config hash payload
  rely s t := (s.1.forceApprovalGate = true → t.1.forceApprovalGate = true) ∧ s.2 <+: t.2
  allowed
    | .run op, _ => ∃ quiet : RecordOp, op = .record quiet ∧ quiet.Quiet
    | .setForceApprovalGate, _ => True
    | .setDefaultSteeringMode _, _ => True
    | .forceControls, s => s.1.forceApprovalGate = true
    | .putArtifact actions, s =>
      actions.contains "approval_gate_forced" = true → s.2.any forcesControls = true
    | _, _ => False
  earn _ _ := 0
  spend _ _ := 0
  rely_refl _ := ⟨id, List.prefix_rfl⟩
  rely_trans h h' := ⟨fun hs => h'.1 (h.1 hs), h.2.trans h'.2⟩

variable {config hash payload} {s t : SwitchState × SwitchTrace} {op : SwitchOp} {r : op.Answer}

theorem switchStep_flag {s t : SwitchState} (h : switchStep config hash op s r t)
    (hflag : s.forceApprovalGate = true) : t.forceApprovalGate = true := by
  cases op with
  | run op | forceControls =>
    obtain ⟨mesh, -, rfl⟩ := h
    exact hflag
  | inquire question | putArtifact actions =>
    obtain ⟨store, rfl⟩ := h
    exact hflag
  | defaultSteeringMode | forceApprovalGate =>
    obtain ⟨-, rfl⟩ := h
    exact hflag
  | register autoMode pausePoints =>
    obtain rfl := h
    exact hflag
  | setForceApprovalGate =>
    obtain rfl := h
    rfl
  | setDefaultSteeringMode mode =>
    obtain rfl := h
    exact hflag

theorem seenStep_rely (h : seenStep config hash payload op s r t) :
    (switchOperators config hash payload).rely s t :=
  ⟨switchStep_flag h.2.1, by rw [h.2.2]; exact List.prefix_append _ _⟩

theorem looksAtControl_quiet {op : RecordOp} (h : op.Quiet) (r : op.Answer) :
    looksAtControl ⟨.run (.record op), r⟩ = false := by
  cases op with
  | store | ask | getControl | wait | pushCommand | forceApprovalGate => rfl
  | pausePoints | autoMode | hasCommands | addPausePoint | setAutoMode | setPausePoints
  | finalizeRun => exact h.elim

theorem sways_of_quiet {op : RecordOp} {r : op.Answer} (hquiet : op.Quiet)
    (hstep : seenStep config hash payload (.run (.record op)) s r t) : Sways payload s t := by
  have hforced : Forced payload s → Forced payload t := fun h => h.run hstep
  obtain ⟨-, ⟨mesh, hrun, ht⟩, hpast⟩ := hstep
  refine .of_step ?_ hpast (looksAtControl_quiet hquiet r) rfl hforced
  rw [ht]
  exact beside_of_quiet hquiet hrun

theorem sways_of_allowed (hallowed : (switchOperators config hash payload).allowed op s)
    (hstep : seenStep config hash payload op s r t) : Sways payload s t := by
  cases op with
  | run op =>
    obtain ⟨quiet, rfl, hquiet⟩ := hallowed
    exact sways_of_quiet hquiet hstep
  | setForceApprovalGate =>
    obtain ⟨-, hrun, hpast⟩ := hstep
    have ht : t.1 = _ := hrun
    exact .of_step (.of_control_eq (by rw [ht])) hpast rfl rfl fun h =>
      h.quiet hpast rfl rfl rfl rfl (by rw [ht]) (by rw [ht]) fun _ => by rw [ht]
  | setDefaultSteeringMode mode =>
    obtain ⟨-, hrun, hpast⟩ := hstep
    have ht : t.1 = _ := hrun
    exact .of_step (.of_control_eq (by rw [ht])) hpast rfl rfl fun h =>
      h.quiet hpast rfl rfl rfl rfl (by rw [ht]) (by rw [ht]) fun hflag => by rw [ht]; exact hflag
  | forceControls =>
    have hforced : Forced payload s → Forced payload t := fun h => h.forced hallowed hstep
    obtain ⟨-, ⟨mesh, hrun, ht⟩, hpast⟩ := hstep
    refine .of_step ?_ hpast rfl rfl hforced
    rw [ht]
    have hquiet : RecordOp.Quiet .forceApprovalGate := trivial
    exact beside_of_quiet hquiet hrun
  | putArtifact actions =>
    have hforced : Forced payload s → Forced payload t := fun h => h.finished hallowed hstep
    obtain ⟨-, ⟨store, ht⟩, hpast⟩ := hstep
    exact .of_step (.of_control_eq (by rw [ht])) hpast rfl rfl hforced
  | inquire | defaultSteeringMode | forceApprovalGate | register => exact hallowed.elim

theorem switchWorker_working :
    Working config hash (fun s => s.1.mesh)
      ((switchWorker config hash payload).along SwitchOp.run) where
  free := by
    intro op s hop
    cases op with
    | execute decision evaluation => cases hop
    | record op | popCommand | evaluate trigger decision allowRereevaluation => trivial
  cost _ _ := rfl
  runs hstep := by
    obtain ⟨-, ⟨mesh, hrun, ht⟩, -⟩ := hstep
    rw [ht]
    exact hrun
  quiet hquiet hstep := sways_of_quiet hquiet hstep
  beside hsways := hsways.beside

end

section

variable {config : StoreConfig} {hash : MerkleHash} {payload : Dict}
variable {s t : SwitchState × SwitchTrace}

def Registered (payload : Dict) (s : SwitchState × SwitchTrace) : Prop :=
  Forced payload s ∧ s.2.any registers = true

section

variable (h : Registered payload s)

include h

theorem Registered.sways (hsways : Sways payload s t) : Registered payload t := by
  obtain ⟨more, hpast, -⟩ := hsways.past
  exact ⟨hsways.forced h.1, by simp [hpast, h.2]⟩

theorem Registered.run {op : RunOp} {r : op.Answer}
    (hstep : seenStep config hash payload (.run op) s r t) : Registered payload t :=
  ⟨h.1.run hstep, by simp [hstep.2.2, h.2]⟩

theorem Registered.not_returned
    (hon : s.1.mesh.control.autoMode = true) : s.2.any switchReturns = false := by
  rw [Bool.eq_false_iff]
  intro hreturns
  exact absurd (hon.symm.trans (h.1.off (h.1.returned hreturns) h.2)) (by decide)

theorem Registered.approved {approval : SteeringCommand} (happroves : approval.Approves)
    (hstep : seenStep config hash payload (.run .popCommand) s (.ok approval) t) :
    HeldSince t.2 := by
  obtain ⟨-, ⟨mesh, hrun, ht⟩, hpast⟩ := hstep
  have hqueued : approval ∈ s.1.mesh.control.commands := by
    simp only [runStep] at hrun
    split at hrun
    · cases hrun.1
    · next command rest hqueue =>
      obtain ⟨hcommand, -⟩ := hrun
      cases hcommand
      rw [hqueue]
      exact List.mem_cons_self
  intro before e after hsplit hreturns _
  rw [hpast] at hsplit
  rcases split_append hsplit with ⟨front, hfront, rfl⟩ | ⟨front, -, hlast⟩
  · refine ⟨approval, ?_, happroves⟩
    rw [putInto_append]
    exact List.mem_append_left _
      (h.1.pending before e front hfront hreturns approval hqueued happroves)
  · have hmem : e ∈ [⟨.run .popCommand, .ok approval⟩] := by rw [hlast]; simp
    rw [List.mem_singleton.mp hmem] at hreturns
    cases hreturns

end

theorem switch_gatekeeping {evaluation : Option EvaluationResult} :
    Gatekeeping (fun s => s.1.mesh) ((switchWorker config hash payload).along SwitchOp.run)
      evaluation (Registered payload) (Registered payload) (fun s => HeldSince s.2)
      (Registered payload) where
  stands_stable h hsways := h.sways hsways
  looks_stable h hsways := h.sways hsways
  leaves_stable h hsways := by
    obtain ⟨more, hpast, hlooks, -⟩ := Sways.past hsways
    rw [hpast]
    exact h.append hlooks
  again_stable h hsways := h.sways hsways
  waits h := h
  readPauses h hstep := h.run hstep
  readMode h hstep := h.run hstep
  readQueue h hstep := h.run hstep
  empty h hstep := h.run hstep
  mode h hstep := h.run hstep
  lookMode h hstep := h.run hstep
  pause h hstep := h.run hstep
  byItself _ h hstep := by
    obtain ⟨-, ⟨mesh, ⟨hon, -⟩, -⟩, hpast⟩ := hstep
    refine heldSince_of_not_returned ?_
    simp [hpast, h.not_returned hon.symm, switchReturns]
  onArrival _ h hopen hstep := by
    obtain ⟨-, -, hpast⟩ := hstep
    refine heldSince_of_not_returned ?_
    simp [hpast, h.not_returned hopen.1, switchReturns]
  take h hstep _ := ⟨h.run hstep, fun happroves _ => h.approved happroves hstep⟩
  replace h hstep _ := h.run hstep

variable {runId : String}

theorem executeRun_held {modes : RunModes} {signal : Dict} {scenarioKey : Option String}
    {rounds : Nat} (hs : Registered payload s) :
    Leads (switchWorker config hash payload)
      (onRun (executeRun hash runId modes signal scenarioKey rounds)) (fun _ _ => True) s := by
  have hw : Working config hash (fun s => s.1.mesh)
      ((switchWorker config hash payload).along SwitchOp.run) := switchWorker_working
  have hleads : Leads ((switchWorker config hash payload).along SwitchOp.run)
      (executeRun hash runId modes signal scenarioKey rounds) (fun _ _ => True) s := by
    refine hw.executeRun_leads (J := Registered payload) Registered.sways ?_
      (fun _ _ => switch_gatekeeping) ?_ (fun _ _ _ h => h) (fun _ _ _ h => h) hs
    · exact fun op s r t _ h hstep => h.run hstep
    · intro source trigger decision allow u hu
      refine hw.recordDecisionAndEvaluation_leads (J := Registered payload)
        (K := fun _ _ => Registered payload) Registered.sways Registered.sways Registered.sways
        ?_ ?_ hu
      · exact fun _ _ v w hv hstep => hv.run hstep
      · exact fun _ _ v hv => hw.quiet_leads (recordEvaluation_quiet _ _ _ _) Registered.sways hv
  exact fun c => wp_embed (hleads c)

end

section

variable {config : StoreConfig} {hash : MerkleHash} {payload : Dict}
variable {s t : SwitchState × SwitchTrace} {α : Type}

/-- A run that is being created, in the automatic mode only if its creation has
settled on it. -/
structure Creating (payload : Dict) (autoMode : Bool) (s : SwitchState × SwitchTrace) : Prop where
  forced : Forced payload s
  unregistered : s.2.any registers = false
  settled : autoMode = true → SettledOnAuto payload s.2

variable {autoMode : Bool}

theorem Creating.sways (h : Creating payload autoMode s)
    (hsways : Sways payload s t) : Creating payload autoMode t := by
  obtain ⟨more, hpast, -, hregisters⟩ := hsways.past
  refine ⟨hsways.forced h.forced, ?_, fun hauto => ?_⟩
  · rw [hpast, List.any_append, h.unregistered, hregisters, Bool.or_false]
  · rw [hpast]
    exact (h.settled hauto).append

theorem Creating.next {e : Event SwitchOp SwitchOp.Answer}
    (h : Creating payload autoMode s) (hpast : t.2 = s.2 ++ [e]) (hregisters : registers e = false)
    (hforced : Forced payload t) : Creating payload autoMode t := by
  refine ⟨hforced, ?_, fun hauto => ?_⟩
  · simp [hpast, h.unregistered, hregisters]
  · rw [hpast]
    exact (h.settled hauto).append

variable {question : CreationQuestion}

theorem Forced.inquired {r : Except PyError question.Value} (h : Forced payload s)
    (hstep : seenStep config hash payload (.inquire question) s r t) : Forced payload t := by
  obtain ⟨-, ⟨store, ht⟩, hpast⟩ := hstep
  exact h.quiet hpast rfl rfl rfl rfl (by rw [ht]) (by rw [ht]) (by rw [ht]; exact id)

theorem inquire_leads {J : SwitchState × SwitchTrace → Prop}
    (hJ : ∀ {s t}, J s → Sways payload s t → J t)
    (hstep : ∀ {s r t}, J s → seenStep config hash payload (.inquire question) s r t → J t)
    (hs : J s) :
    Leads (switchWorker config hash payload) (inquire question) (fun _ t => J t) s := by
  intro c t hst
  refine ⟨trivial, fun r u hru => ⟨Nat.zero_le _, ?_⟩⟩
  exact fun v huv _ _ => hJ (hstep (hJ hs hst) hru) huv

theorem Creating.inquire (hs : Creating payload autoMode s) :
    Leads (switchWorker config hash payload) (inquire question)
      (fun _ t => Creating payload autoMode t) s :=
  inquire_leads Creating.sways (fun h hstep => h.next hstep.2.2 rfl (h.forced.inquired hstep)) hs

theorem Registered.inquire (hs : Registered payload s) :
    Leads (switchWorker config hash payload) (inquire question)
      (fun _ t => Registered payload t) s :=
  inquire_leads Registered.sways
    (fun h hstep => ⟨h.1.inquired hstep, by simp [hstep.2.2, h.2]⟩) hs

theorem change_leads {op : SwitchOp} {Q : op.Answer → SwitchState × SwitchTrace → Prop}
    (hallowed : ∀ t, (switchWorker config hash payload).allowed op t)
    (hQ : ∀ t r u v, Sways payload s t → seenStep config hash payload op t r u →
      Sways payload u v → Q r v) :
    Leads (switchWorker config hash payload) (change op) Q s :=
  leads_perform hallowed (fun _ => rfl) hQ

theorem Creating.readDefault (hs : Creating payload false s) :
    Leads (switchWorker config hash payload) (change .defaultSteeringMode)
      (fun default t => Creating payload false t ∧ ⟨.defaultSteeringMode, default⟩ ∈ t.2) s := by
  refine change_leads (fun _ => trivial) fun t default u v hst hstep huv => ?_
  have ht := hs.sways hst
  obtain ⟨-, ⟨-, hsame⟩, hpast⟩ := hstep
  have hu : Creating payload false u := ht.next hpast rfl (ht.forced.quiet hpast rfl rfl rfl rfl
    (by rw [hsame]) (by rw [hsame]) (by rw [hsame]; exact id))
  obtain ⟨more, hmore, -⟩ := huv.past
  exact ⟨hu.sways huv, by simp [hmore, hpast]⟩

theorem Creating.readFlag {default : String} (hs : Creating payload false s)
    (hdefault : ⟨.defaultSteeringMode, default⟩ ∈ s.2) :
    Leads (switchWorker config hash payload) (change .forceApprovalGate)
      (fun forced t => Creating payload
        (decide ((if forced then .str "approval_gate" else requestedMode payload default) =
          Json.str "interruptible_auto")) t) s := by
  refine change_leads (fun _ => trivial) fun t forced u v hst hstep huv => ?_
  have ht := hs.sways hst
  obtain ⟨more, hmore, -⟩ := hst.past
  have hforced := ht.forced.looked hstep
  obtain ⟨-, ⟨-, hsame⟩, hpast⟩ := hstep
  refine Creating.sways ⟨hforced, (ht.next hpast rfl hforced).unregistered, fun hauto => ?_⟩ huv
  match forced with
  | true => simp at hauto
  | false =>
    refine ⟨t.2, _, [], default, hpast, rfl, ?_, by simpa using hauto⟩
    rw [hmore]
    exact List.mem_append_left _ hdefault

theorem Creating.register {pausePoints : List String}
    (hs : Creating payload autoMode s) :
    Leads (switchWorker config hash payload) (change (.register autoMode pausePoints))
      (fun _ t => Registered payload t) s := by
  refine change_leads (fun _ => trivial) fun t _ u v hst hstep huv => ?_
  have ht := hs.sways hst
  refine Registered.sways (ht.forced.registered (fun hforced => ?_) hstep) huv
  rw [Bool.eq_false_iff]
  intro hauto
  rw [(ht.forced.unregistered ht.unregistered).2 (ht.settled hauto)] at hforced
  cases hforced

theorem createRun_leads {defaultPausePoint : String} (hs : Creating payload false s) :
    Leads (switchWorker config hash payload) (createRun defaultPausePoint payload)
      (fun created t => created.isSome = true → Registered payload t) s := by
  refine leads_andThen hs.inquire fun stopped t ht => ?_
  split
  · exact leads_ofExcept fun _ _ h _ => nomatch h
  refine leads_andThen ht.readDefault fun default u ⟨hu, hdefault⟩ => ?_
  refine leads_andThen (hu.readFlag hdefault) fun forced v hv => ?_
  refine leads_andThen (leads_ofExcept fun _ w _ hvw => hv.sways hvw) fun pausePoints w hw => ?_
  refine leads_when (fun _ => hw.inquire) (fun _ => hw) fun x hx => ?_
  refine leads_andThen hx.inquire fun signal y hy => ?_
  refine leads_andThen hy.inquire fun attached z hz => ?_
  split
  · exact leads_pure fun _ _ h => nomatch h
  refine leads_andThen hz.inquire fun boundary a ha => ?_
  refine leads_andThen ha.inquire fun _ b hb => ?_
  refine leads_andThen hb.inquire fun admitted d hd => ?_
  split
  · refine leads_andThen hd.register fun _ e he => ?_
    refine leads_andThen he.inquire fun _ f hf => ?_
    refine leads_andThen hf.inquire fun queued g hg => ?_
    split
    · exact leads_pure fun _ hgh _ => hg.sways hgh
    · refine leads_andThen hg.inquire fun _ h hh => ?_
      refine leads_andThen (Q := fun _ _ => True) ?_ fun _ _ _ => leads_pure fun _ _ h => nomatch h
      have hfree : Leads ((switchWorker config hash payload).along SwitchOp.run)
          (record (perform .finalizeRun)) (fun _ _ => True) h :=
        switchWorker_working.free_leads (record_free _)
      exact fun c => wp_embed (hfree c)
  · refine leads_andThen hd.inquire fun _ _ _ => leads_pure fun _ _ h => nomatch h

end

section

variable {config : StoreConfig} {hash : MerkleHash} {payload : Dict} {runId : String}
variable {s : SwitchState × SwitchTrace} {α : Type}

theorem onRun_quiet {x : Recording α} (hx : QuietCall x) :
    Leads (switchOperators config hash payload) (onRun (record x)) (fun _ _ => True) s := by
  refine leads_of_uses (J := fun _ => True)
    (P := fun op => ∃ quiet : RecordOp, op = .run (.record quiet) ∧ quiet.Quiet) ?_ ?_
    (fun _ _ => rfl) (fun _ _ _ _ => trivial) (fun _ _ _ _ _ _ _ => trivial) trivial
  · exact Prog.Uses.embed (record_uses (hx.mono fun op hop => ⟨op, rfl, hop⟩))
  · rintro _ t ⟨op, rfl, hop⟩
    exact ⟨op, rfl, hop⟩

theorem forceGate_leads : Leads (switchOperators config hash payload) forceGate
    (fun _ t => t.2.any forcesControls = true) s := by
  refine leads_andThen (Q := fun _ t => t.1.forceApprovalGate = true) ?_ fun _ t ht => ?_
  · refine leads_perform (fun _ => trivial) (fun _ => rfl) fun t _ u v _ hstep huv => ?_
    refine huv.1 ?_
    rw [show u.1 = _ from hstep.2.1]
  refine leads_andThen (Q := fun _ t => t.1.forceApprovalGate = true) ?_ fun _ u hu => ?_
  · refine leads_perform (fun _ => trivial) (fun _ => rfl) fun u _ v w htu hstep hvw => ?_
    exact hvw.1 (switchStep_flag hstep.2.1 (htu.1 ht))
  · intro c v huv
    refine ⟨huv.1 hu, fun r w hstep => ⟨Nat.zero_le _, ?_⟩⟩
    intro x hwx _ _
    obtain ⟨more, hmore⟩ := hwx.2
    rw [← hmore, hstep.2.2]
    simp [forcesControls]

theorem pullKillSwitch_leads {request : Dict} :
    Leads (switchOperators config hash payload) (pullKillSwitch request) (fun _ _ => True) s := by
  have heither : ∀ {c : Prop} [Decidable c] {x y : Switching Bool} {rest : Bool → Switching Unit},
      Leads (switchOperators config hash payload) x (fun _ _ => True) s →
      Leads (switchOperators config hash payload) y (fun _ _ => True) s →
      (∀ b t, Leads (switchOperators config hash payload) (rest b) (fun _ _ => True) t) →
      Leads (switchOperators config hash payload) (if c then x >>= rest else y >>= rest)
        (fun _ _ => True) s := by
    intro c _ x y rest hx hy hrest
    split
    · exact leads_andThen hx fun b t _ => hrest b t
    · exact leads_andThen hy fun b t _ => hrest b t
  refine heither (leads_pure fun _ _ => trivial) (leads_ofExcept fun _ _ _ _ => trivial)
    fun stopWatchers t => ?_
  refine leads_when (J := fun _ => True) (fun _ => onRun_quiet (ask_quiet _)) (fun _ => trivial)
    fun u _ => ?_
  refine leads_when (J := fun _ => True) (fun _ => onRun_quiet (ask_quiet _)) (fun _ => trivial)
    fun v _ => ?_
  refine leads_when (J := fun _ => True) (fun _ => onRun_quiet (ask_quiet _)) (fun _ => trivial)
    fun w _ => ?_
  refine leads_when (J := fun t => request.get? "force_approval_gate" = some (.bool true) →
    t.2.any forcesControls = true) ?_ ?_ fun x hx => ?_
  · exact fun _ c => (forceGate_leads c).mono fun _ _ t ht a ha _ => ht a ha
  · exact fun hnot hforce => absurd (decide_eq_true hforce) hnot
  · intro c y hxy
    refine ⟨fun hforced => ?_, fun r z _ => ⟨Nat.zero_le _, fun _ _ _ _ => trivial⟩⟩
    obtain ⟨more, hmore⟩ := hxy.2
    have hforce : request.get? "force_approval_gate" = some (.bool true) := by
      rw [switchActions_forced] at hforced
      exact of_decide_eq_true hforced
    rw [← hmore, List.any_append, hx hforce, Bool.true_or]

theorem OperatorRequest.switching_leads (request : OperatorRequest) :
    Leads (switchOperators config hash payload) (request.switching hash runId)
      (fun _ _ => True) s := by
  cases request with
  | steer cap command => exact onRun_quiet (steerRun_quiet cap command)
  | killSwitch request => exact pullKillSwitch_leads

end

theorem creating_start {s : SwitchState} (htracked : s.mesh.tracked = false) :
    Creating payload false (s, []) := by
  refine ⟨⟨?_, ?_, ?_, ?_, ?_⟩, rfl, fun h => nomatch h⟩
  · exact fun h => nomatch h
  · exact fun h => nomatch h
  · exact fun h => nomatch h
  · intro before e after hnil
    simp at hnil
  · exact fun _ => ⟨htracked, fun _ => rfl⟩

/-- **The kill switch holds** what it sees: a run is executed after it only if an approval was
issued since. -/
theorem kill_switch_holds {config : StoreConfig} {hash : MerkleHash} {runId : String}
    {defaultPausePoint : String} {payload : Dict} {modes : RunModes}
    {scenarioKey : Option String} {rounds : Nat} {requests : List OperatorRequest}
    {s : SwitchState} {t : SwitchState × SwitchTrace} {before after : SwitchTrace}
    {switched : Event SwitchOp SwitchOp.Answer} {decision : ContractDecision}
    {evaluation : EvaluationResult} {answer : Except PyError Dict} {threads : List (Switching Unit)}
    (htracked : s.mesh.tracked = false) (hswitched : switchReturns switched = true)
    (hlooks : after.any looksAtControl = true)
    (hrun : Interleaves (seenStep config hash payload)
      (createAndExecute hash runId defaultPausePoint payload modes scenarioKey rounds ::
        requests.map (·.switching hash runId)) (s, [])
      (before ++ switched :: after ++ [⟨.run (.execute decision evaluation), answer⟩]) threads t) :
    ∃ approval ∈ putInto after, approval.Approves := by
  have hmain : Leads (switchWorker config hash payload)
      (createAndExecute hash runId defaultPausePoint payload modes scenarioKey rounds)
      (fun _ _ => True) (s, []) := by
    refine leads_andThen (createRun_leads (creating_start htracked)) fun created u hu => ?_
    match created with
    | none => exact leads_pure fun _ _ => trivial
    | some signal => exact executeRun_held (hu rfl)
  have hled : Led (switchWorker config hash payload) (switchOperators config hash payload)
      (fun _ _ _ => True) (s, [])
      (createAndExecute hash runId defaultPausePoint payload modes scenarioKey rounds ::
        requests.map (·.switching hash runId)) := by
    refine ⟨⟨0, (hmain 0).mono fun _ _ _ _ => trivial⟩, fun q hq => ?_⟩
    obtain ⟨request, -, rfl⟩ := List.mem_map.mp hq
    exact ⟨0, (request.switching_leads 0).mono fun _ _ _ _ => trivial⟩
  obtain ⟨left, right, k, u, hbefore⟩ := hrun.upTo
  have hpast : u.2 = [] ++ (before ++ switched :: after) :=
    hbefore.past_eq fun hstep => hstep.2.2
  have hled' := hled.interleaves rfl (fun _ _ _ _ _ hstep => seenStep_rely hstep)
    (fun _ _ _ _ hallowed hstep => ⟨sways_of_allowed hallowed hstep, seenStep_rely hstep⟩) hbefore
  rcases hled'.allowed with hheld | ⟨op, hop, -⟩
  · exact hheld before switched after hpast hswitched hlooks
  · cases hop

def creationReply : (question : CreationQuestion) → question.Value
  | .stopped => false
  | .resolveSignal _ => []
  | .attachToCorrelatedRun _ _ => false
  | .buildOwnershipBoundary _ => []
  | .buildRunAdmission _ => true
  | .putNowait _ => true
  | .ensureDefaultGoal | .createRunSession _ _ _ _ _ | .recordBlocked | .recordQueued _ _ _
  | .recordOverload => ()

def switchAnswer : (op : SwitchOp) → SwitchState → Option (op.Answer × SwitchState)
  | .run op, s => (gateAnswer op s.mesh).map fun (r, mesh) => (r, { s with mesh })
  | .inquire question, s =>
    some (.ok (creationReply question), { s with mesh := { s.mesh with store := storeWithRun } })
  | .defaultSteeringMode, s => some (s.defaultSteeringMode, s)
  | .forceApprovalGate, s => some (s.forceApprovalGate, s)
  | .register autoMode pausePoints, s =>
    some ((), { s with mesh := { s.mesh with
      control := ⟨[], autoMode, pausePoints.eraseDups⟩
      tracked := true } })
  | .setForceApprovalGate, s => some ((), { s with forceApprovalGate := true })
  | .setDefaultSteeringMode mode, s => some ((), { s with defaultSteeringMode := mode })
  | .forceControls, s =>
    some ((), { s with mesh := if s.mesh.tracked then
        { s.mesh with control := { s.mesh.control with
          autoMode := false
          pausePoints := s.mesh.control.pausePoints.insert "evaluation_ready" } }
      else s.mesh })
  | .putArtifact _, s => some (.ok (), s)

theorem switchAnswer_step (s : SwitchState) (r : op.Answer) (t : SwitchState)
    (h : switchAnswer op s = some (r, t)) : switchStep ⟨100⟩ plainHash op s r t := by
  cases op with
  | run op =>
    obtain ⟨⟨answer, mesh⟩, hanswer, hpair⟩ := Option.map_eq_some_iff.mp h
    cases hpair
    exact ⟨mesh, gateAnswer_step op s.mesh _ mesh hanswer, rfl⟩
  | inquire question =>
    cases h
    exact ⟨storeWithRun, rfl⟩
  | defaultSteeringMode | forceApprovalGate =>
    cases h
    exact ⟨rfl, rfl⟩
  | register autoMode pausePoints | setForceApprovalGate | setDefaultSteeringMode mode =>
    cases h
    exact rfl
  | forceControls =>
    cases h
    exact ⟨_, rfl, rfl⟩
  | putArtifact actions =>
    cases h
    exact ⟨s.mesh.store, rfl⟩

def inSight : SwitchOp → SwitchState × SwitchTrace → Bool
  | .forceControls, s => s.1.mesh.tracked
  | .putArtifact _, s => s.1.mesh.control.commands.all fun command => !decide command.Approves
  | .run (.record (.setAutoMode enabled)), _ => !enabled
  | _, _ => true

theorem sees_of_inSight {op : SwitchOp} (h : inSight op s = true) (r : op.Answer) :
    Sees payload op s r := by
  unfold Sees
  split
  · exact .inl h
  · intro _ command hcommand
    simpa using List.all_eq_true.mp h command hcommand
  · exact fun _ => by simpa [inSight] using h
  · trivial

def seenAnswer (s : SwitchState × SwitchTrace) : Option (op.Answer × SwitchState × SwitchTrace) :=
  if inSight op s then (switchAnswer op s.1).map fun (r, t) => (r, t, s.2 ++ [⟨op, r⟩]) else none

theorem seenAnswer_step {payload : Dict} (op : SwitchOp) (s : SwitchState × SwitchTrace)
    (r : op.Answer) (t : SwitchState × SwitchTrace) (h : seenAnswer op s = some (r, t)) :
    seenStep ⟨100⟩ plainHash payload op s r t := by
  unfold seenAnswer at h
  split at h
  · next hsight =>
    obtain ⟨⟨answer, u⟩, hanswer, hpair⟩ := Option.map_eq_some_iff.mp h
    cases hpair
    exact ⟨sees_of_inSight hsight _, switchAnswer_step op s.1 _ _ hanswer, rfl⟩
  · cases h

def splitAtReturn : SwitchTrace →
    Option (SwitchTrace × Event SwitchOp SwitchOp.Answer × SwitchTrace)
  | [] => none
  | e :: rest => if switchReturns e then some ([], e, rest)
      else (splitAtReturn rest).map fun (before, switched, after) => (e :: before, switched, after)

theorem splitAtReturn_spec {before after : SwitchTrace} {switched : Event SwitchOp SwitchOp.Answer}
    (h : splitAtReturn trace = some (before, switched, after)) :
    trace = before ++ switched :: after ∧ switchReturns switched = true := by
  induction trace generalizing before with
  | nil => cases h
  | cons e rest ih =>
    rw [splitAtReturn] at h
    split at h
    · next hreturns =>
      cases h
      exact ⟨rfl, hreturns⟩
    · obtain ⟨⟨front, m, tail⟩, hrest, hparts⟩ := Option.map_eq_some_iff.mp h
      cases hparts
      obtain ⟨rfl, hreturns⟩ := ih hrest
      exact ⟨rfl, hreturns⟩

def actsNext : List (Switching Unit) → Bool
  | .call (.run (.execute _ _)) _ :: _ => true
  | _ => false

theorem actsNext_inv {threads : List (Switching Unit)} (h : actsNext threads = true) :
    ∃ decision evaluation k rest,
      threads = .call (.run (.execute decision evaluation)) k :: rest := by
  unfold actsNext at h
  split at h
  · exact ⟨_, _, _, _, rfl⟩
  · cases h

def switchedRun (command : Dict) : List (Switching Unit) :=
  createAndExecute plainHash "run" "evaluation_ready" [] ⟨"native", "native"⟩ none 1 ::
    [OperatorRequest.killSwitch [("force_approval_gate", .bool true)],
      OperatorRequest.steer 1000 command].map (·.switching plainHash "run")

def switchStart : SwitchState :=
  ⟨⟨storeWithRun, ⟨[], false, []⟩, false⟩, false, "approval_gate"⟩

/-- What has happened since the switch returned: whether the worker has looked at
the control, and whether an approval was issued. -/
def sinceReturn (trace : SwitchTrace) : Option (Bool × Bool) :=
  (splitAtReturn trace).map fun (_, _, after) =>
    (after.any looksAtControl, (putInto after).any fun command => decide command.Approves)

theorem sinceReturn_spec {approved : Bool} (h : sinceReturn trace = some (true, approved)) :
    ∃ before switched after, trace = before ++ switched :: after ∧
      switchReturns switched = true ∧ after.any looksAtControl = true ∧
      ((∃ approval ∈ putInto after, approval.Approves) → approved = true) := by
  obtain ⟨⟨before, switched, after⟩, hsplit, hsince⟩ := Option.map_eq_some_iff.mp h
  obtain ⟨hlooks, happroved⟩ := Prod.mk.inj hsince
  obtain ⟨htrace, hreturns⟩ := splitAtReturn_spec hsplit
  refine ⟨before, switched, after, htrace, hreturns, hlooks, ?_⟩
  rintro ⟨approval, hput, happroves⟩
  rw [← happroved, List.any_eq_true]
  exact ⟨approval, hput, decide_eq_true happroves⟩

/-- A run that the switch holds, and that is approved later. -/
theorem kill_switch_holds_sample :
    ∃ before switched after decision evaluation threads t,
      switchReturns switched = true ∧
      Interleaves (seenStep ⟨100⟩ plainHash []) (switchedRun [("command", .str "approve")])
        (switchStart, []) (before ++ switched :: after ++
          [⟨.run (.execute decision evaluation), .ok []⟩]) threads t ∧
      ∃ approval ∈ putInto after, approval.Approves := by
  have hoverview : ((scheduleTrace seenAnswer (List.replicate 12 0 ++ List.replicate 4 1 ++
      List.replicate 17 2 ++ List.replicate 155 0) (switchedRun [("command", .str "approve")])
      (switchStart, [])).map fun reached => (actsNext reached.2.1, sinceReturn reached.1)) =
        some (true, some (true, true)) := by
    decide +kernel
  obtain ⟨⟨trace, threads, u⟩, hschedule, hreached⟩ := Option.map_eq_some_iff.mp hoverview
  obtain ⟨hnext, hsince⟩ := Prod.mk.inj hreached
  obtain ⟨decision, evaluation, k, rest, rfl⟩ := actsNext_inv hnext
  obtain ⟨before, switched, after, rfl, hreturns, hlooks, -⟩ := sinceReturn_spec hsince
  have hbefore := scheduleTrace_interleaves (@seenAnswer_step []) hschedule
  have hrun := @Interleaves.tail _ _ _ _ (seenStep ⟨100⟩ plainHash []) _ [] rest _ k _ _
    (u.1, u.2 ++ [⟨.run (.execute decision evaluation), .ok []⟩]) (.ok []) _ hbefore
    ⟨trivial, ⟨u.1.mesh, ⟨u.1.mesh.store, rfl⟩, rfl⟩, rfl⟩
  exact ⟨before, switched, after, decision, evaluation, _, _, hreturns, hrun,
    kill_switch_holds rfl hreturns hlooks hrun⟩

/-- A command that turns the mode on releases the run after the switch. -/
theorem auto_mode_outruns_switch :
    ¬ ∀ (config : StoreConfig) (hash : MerkleHash) (runId defaultPausePoint : String)
      (payload : Dict) (modes : RunModes) (scenarioKey : Option String) (rounds : Nat)
      (requests : List OperatorRequest) (s t : SwitchState) (before after : SwitchTrace)
      (switched : Event SwitchOp SwitchOp.Answer) (decision : ContractDecision)
      (evaluation : EvaluationResult) (answer : Except PyError Dict)
      (threads : List (Switching Unit)), s.mesh.tracked = false → switchReturns switched = true →
      after.any looksAtControl = true →
      Interleaves (switchStep config hash)
        (createAndExecute hash runId defaultPausePoint payload modes scenarioKey rounds ::
          requests.map (·.switching hash runId)) s
        (before ++ switched :: after ++ [⟨.run (.execute decision evaluation), answer⟩])
        threads t →
      ∃ approval ∈ putInto after, approval.Approves := by
  intro hclaim
  have hoverview : ((scheduleTrace switchAnswer (List.replicate 4 1 ++ List.replicate 12 0 ++
      List.replicate 13 2 ++ List.replicate 165 0)
      (switchedRun [("command", .str "set_auto_mode"), ("enabled", .bool true)])
      switchStart).map fun reached => (actsNext reached.2.1, sinceReturn reached.1)) =
        some (true, some (true, false)) := by
    decide +kernel
  obtain ⟨⟨trace, threads, u⟩, hschedule, hreached⟩ := Option.map_eq_some_iff.mp hoverview
  obtain ⟨hnext, hsince⟩ := Prod.mk.inj hreached
  obtain ⟨decision, evaluation, k, rest, rfl⟩ := actsNext_inv hnext
  obtain ⟨before, switched, after, rfl, hreturns, hlooks, hnone⟩ := sinceReturn_spec hsince
  have hbefore := scheduleTrace_interleaves switchAnswer_step hschedule
  have hrun := @Interleaves.tail _ _ _ _ (switchStep ⟨100⟩ plainHash) _ [] rest _ k _ _ u (.ok [])
    _ hbefore ⟨u.mesh, ⟨u.mesh.store, rfl⟩, rfl⟩
  have happroved := hclaim ⟨100⟩ plainHash "run" "evaluation_ready" [] ⟨"native", "native"⟩ none 1
    [.killSwitch [("force_approval_gate", .bool true)],
      .steer 1000 [("command", .str "set_auto_mode"), ("enabled", .bool true)]]
    switchStart u before after switched decision evaluation (.ok []) _ rfl hreturns hlooks hrun
  exact absurd (hnone happroved) (by decide)

end OrbitalMesh
