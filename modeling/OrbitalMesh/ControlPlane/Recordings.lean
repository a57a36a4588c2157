import OrbitalMesh.ControlPlane.Coordinator

/-!
# Sections that leave the control to the worker

Most sections of a run and all sections of its operators are quiet: they may append
a command to the queue or force the approval gate, and do nothing else to the control
of the run (`RecordOp.Quiet`, `Beside`).  What is left are the looks at the control,
the commands taken from the queue, and what the worker makes of them.
-/

namespace OrbitalMesh

open Atomic Atomic.Raising

/-- How a method of the store goes on after a section. -/
def storeAnswered {α : Type} {op : StoreOp} (k : StoreResp op → StoreProg α) :
    Except PyError (StoreResp op) → Prog RecordOp RecordOp.Answer (Except PyError α)
  | .ok value => onStore (k value)
  | .error e => .ret (.error e)

variable {α : Type}

theorem onStore_call {op : StoreOp} {k : StoreResp op → StoreProg α} :
    (onStore (.call op k) : Recording α) = Prog.call (RecordOp.store op) (storeAnswered k) := by
  rw [onStore]
  congr 1

theorem onStore_uses {P : RecordOp → Prop} {p : StoreProg α} (h : p.Uses fun op => P (.store op)) :
    Prog.Uses P (onStore p) := by
  induction p with
  | ret a => trivial
  | call op k ih =>
    rw [onStore_call]
    refine ⟨h.1, ?_⟩
    rintro (e | value)
    · trivial
    · exact ih value (h.2 value)

theorem onStore_bind {β : Type} (p : StoreProg α) (f : α → StoreProg β) :
    onStore (p >>= f) = (onStore p >>= fun a => onStore (f a) : Recording β) := by
  induction p with
  | ret a => rfl
  | call op k ih =>
    have hleft : onStore (Prog.call op k >>= f) =
        (Prog.call (RecordOp.store op) (storeAnswered fun r => k r >>= f) : Recording β) :=
      onStore_call
    rw [hleft, onStore_call, bind_run]
    show Prog.call _ _ = Prog.call _ _
    congr 1
    funext r
    match r with
    | .error e => rfl
    | .ok value => exact (ih value).trans (bind_run _ _)

section

variable {α β : Type}

theorem record_uses {P : RunOp → Prop} {x : Recording α}
    (h : Prog.Uses (fun op => P (.record op)) x) : Prog.Uses P (record x) := by
  suffices hgo : ∀ {γ : Type} (p : Prog RecordOp RecordOp.Answer γ),
      p.Uses (fun op => P (.record op)) → (record.go p).Uses P from hgo x h
  intro γ p hp
  induction p with
  | ret a => trivial
  | call op k ih => exact ⟨hp.1, fun r => ih r (hp.2 r)⟩

theorem record_go_bind {γ : Type} (p : Prog RecordOp RecordOp.Answer γ)
    (f : γ → Prog RecordOp RecordOp.Answer β) :
    record.go (p.bind f) = (record.go p).bind fun a => record.go (f a) := by
  induction p with
  | ret a => rfl
  | call op k ih =>
    show Prog.call _ _ = Prog.call _ _
    congr 1
    funext r
    exact ih r

theorem record_bind (x : Recording α) (f : α → Recording β) :
    record (x >>= f) = (record x >>= fun a => record (f a) : Coord β) := by
  rw [bind_run, bind_run]
  show record.go _ = _
  rw [record_go_bind]
  congr 1
  funext r
  cases r <;> rfl

end

def RecordOp.Quiet : RecordOp → Prop
  | .store _ | .ask _ | .getControl | .wait | .pushCommand _ | .forceApprovalGate => True
  | _ => False

/-- What quiet sections may do to the control. -/
structure Beside (s t : MeshState) : Prop where
  queue : ∃ new, t.control.commands = s.control.commands ++ new
  gate : t.control.autoMode = s.control.autoMode ∨
    t.control.autoMode = false ∧ "evaluation_ready" ∈ t.control.pausePoints
  pauses : ∀ stage ∈ s.control.pausePoints, stage ∈ t.control.pausePoints

namespace Beside

variable {s t u : MeshState}

theorem of_control_eq (h : t.control = s.control) : Beside s t := by
  refine ⟨⟨[], by rw [h, List.append_nil]⟩, .inl (by rw [h]), ?_⟩
  rw [h]
  exact fun _ hstage => hstage

theorem refl (s : MeshState) : Beside s s := of_control_eq rfl

theorem trans (h : Beside s t) (h' : Beside t u) : Beside s u := by
  obtain ⟨new, hnew⟩ := h.queue
  obtain ⟨new', hnew'⟩ := h'.queue
  refine ⟨⟨new ++ new', by rw [hnew', hnew, List.append_assoc]⟩, ?_,
    fun stage hstage => h'.pauses stage (h.pauses stage hstage)⟩
  rcases h'.gate with hgate' | hgate'
  · rcases h.gate with hgate | hgate
    · exact .inl (hgate'.trans hgate)
    · exact .inr ⟨hgate'.trans hgate.1, h'.pauses _ hgate.2⟩
  · exact .inr hgate'

theorem autoMode_off (h : Beside s t) (hoff : s.control.autoMode = false) :
    t.control.autoMode = false := by
  rcases h.gate with hgate | hgate
  · exact hgate.trans hoff
  · exact hgate.1

theorem on_or_paused (h : Beside s t) (hon : s.control.autoMode = true ∨
    "evaluation_ready" ∈ s.control.pausePoints) :
    t.control.autoMode = true ∨ "evaluation_ready" ∈ t.control.pausePoints := by
  rcases hon with hon | hpaused
  · rcases h.gate with hgate | hgate
    · exact .inl (hgate.trans hon)
    · exact .inr hgate.2
  · exact .inr (h.pauses _ hpaused)

end Beside

theorem beside_of_quiet {config : StoreConfig} {hash : MerkleHash} {op : RecordOp}
    {s t : MeshState} {r : op.Answer} (hquiet : op.Quiet)
    (hstep : recordStep config hash op s r t) : Beside s t := by
  cases op with
  | store op =>
    match r with
    | .error e =>
      obtain rfl : t = s := hstep
      exact .refl t
    | .ok value =>
      obtain ⟨store, -, rfl⟩ := hstep
      exact .of_control_eq rfl
  | ask question =>
    obtain ⟨store, rfl⟩ := hstep
    exact .of_control_eq rfl
  | getControl =>
    obtain ⟨-, rfl⟩ := hstep
    exact .refl t
  | wait =>
    obtain rfl : t = s := hstep
    exact .refl t
  | pushCommand command =>
    obtain rfl := hstep
    exact ⟨⟨[command], rfl⟩, .inl rfl, fun _ h => h⟩
  | forceApprovalGate =>
    obtain rfl := hstep
    split
    · refine ⟨⟨[], (List.append_nil _).symm⟩, .inr ⟨rfl, ?_⟩, fun stage hstage => ?_⟩
      · exact List.mem_insert_self ..
      · exact List.mem_insert_of_mem hstage
    · exact .refl s
  | pausePoints | autoMode | hasCommands | addPausePoint | setAutoMode | setPausePoints
  | finalizeRun => exact hquiet.elim

section

variable {hash : MerkleHash} {runId : String} {α : Type}

/-- The method consists of quiet sections. -/
abbrev QuietCall (x : Recording α) : Prop := Prog.Uses RecordOp.Quiet x

theorem onStore_quiet (p : StoreProg α) : QuietCall (onStore p) := by
  refine onStore_uses ?_
  induction p with
  | ret a => trivial
  | call op k ih => exact ⟨trivial, ih⟩

theorem ask_quiet (question : Question) : QuietCall (ask question) := ⟨trivial, fun _ => trivial⟩

theorem perform_quiet {op : RecordOp} (h : op.Quiet) : QuietCall (perform op) :=
  ⟨h, fun _ => trivial⟩

theorem getRunSession_quiet : QuietCall (getRunSession runId) := onStore_quiet _

theorem appendRunEvent_quiet (draft : EventDraft) : QuietCall (appendRunEvent hash draft) :=
  uses_andThen (onStore_quiet _) fun _ => trivial

theorem updateSession_quiet (update : SessionUpdate) : QuietCall (updateSession runId update) := by
  refine uses_andThen getRunSession_quiet fun found => ?_
  cases found with
  | none => trivial
  | some session =>
    exact uses_andThen (onStore_quiet _) fun _ => uses_andThen (onStore_quiet _) fun _ => trivial

theorem setArtifact_quiet (key : String) (value : Json) :
    QuietCall (setArtifact runId key value) := by
  refine uses_andThen getRunSession_quiet fun found => ?_
  cases found with
  | none => trivial
  | some session =>
    exact uses_andThen (onStore_quiet _) fun _ => uses_andThen (onStore_quiet _) fun _ => trivial

theorem isChaosProbeRun_quiet : QuietCall (isChaosProbeRun runId) :=
  uses_andThen getRunSession_quiet fun _ => trivial

theorem recordDecision_quiet (source : String) (trigger : Dict) (decision : ContractDecision) :
    QuietCall (recordDecision hash runId source trigger decision) := by
  refine uses_andThen getRunSession_quiet fun session => ?_
  refine uses_andThen (ask_quiet _) fun report => uses_andThen trivial fun decision => ?_
  refine uses_andThen (setArtifact_quiet _ _) fun _ => ?_
  refine uses_andThen (appendRunEvent_quiet _) fun _ => ?_
  split
  · refine uses_andThen trivial fun payload => uses_andThen (setArtifact_quiet _ _) fun _ => ?_
    refine uses_andThen (updateSession_quiet _) fun _ => ?_
    exact uses_andThen (appendRunEvent_quiet _) fun _ => trivial
  · refine uses_andThen (setArtifact_quiet _ _) fun _ => ?_
    refine uses_andThen (appendRunEvent_quiet _) fun _ => uses_andThen trivial fun payload => ?_
    refine uses_andThen (setArtifact_quiet _ _) fun _ => ?_
    refine uses_andThen (updateSession_quiet _) fun _ => ?_
    exact uses_andThen (appendRunEvent_quiet _) fun _ => trivial

def afterEvaluation (hash : MerkleHash) (runId : String) (decision : ContractDecision)
    (evaluation : EvaluationResult) (allowRereevaluation : Bool) : Recording Unit := do
  ask (.trajectory decision evaluation)
  ask .deliveryContext
  if allowRereevaluation then
    appendRunEvent hash (skippedArtifact runId "evaluation_ready" "agent_tasks"
      [("reason", .str "operator_override_rereevaluation"), ("agent_tasks_reused", .bool true)]
      [("agent_tasks_reused", .bool true)] (some "agent_mesh") "reused")
  else if ← isChaosProbeRun runId then
    appendRunEvent hash (skippedArtifact runId "evaluation_ready" "agent_tasks"
      [("reason", .str "chaos_probe_fast_path"),
       ("skipped", .arr [.str "agent_tasks", .str "agent_reconciliation"])]
      [("status", .str "skipped"), ("reason", .str "chaos_probe_fast_path")]
      (some "agent_mesh") "skipped")
  else
    ask (.agentTasks decision evaluation)

theorem afterEvaluation_quiet (decision : ContractDecision) (evaluation : EvaluationResult)
    (allowRereevaluation : Bool) :
    QuietCall (afterEvaluation hash runId decision evaluation allowRereevaluation) := by
  refine uses_andThen (ask_quiet _) fun _ => uses_andThen (ask_quiet _) fun _ => ?_
  split
  · exact appendRunEvent_quiet _
  · refine uses_andThen isChaosProbeRun_quiet fun chaos => ?_
    split
    · exact appendRunEvent_quiet _
    · exact ask_quiet _

theorem recordEvaluation_quiet (modes : RunModes) (decision : ContractDecision)
    (evaluation : EvaluationResult) (allowRereevaluation : Bool) :
    QuietCall (recordEvaluation hash runId modes decision evaluation allowRereevaluation) := by
  refine uses_andThen (setArtifact_quiet _ _) fun _ => ?_
  refine uses_andThen (updateSession_quiet _) fun _ => ?_
  refine uses_andThen (appendRunEvent_quiet _) fun _ => ?_
  exact afterEvaluation_quiet decision evaluation allowRereevaluation

theorem quiet_when {c : Prop} [Decidable c] {x : Recording Unit} {rest : Unit → Recording α}
    (hx : QuietCall x) (hrest : QuietCall (rest ())) :
    QuietCall (if c then x >>= rest else rest ()) := by
  split
  · exact uses_andThen hx fun _ => hrest
  · exact hrest

theorem queueCommand_quiet (command : SteeringCommand) (eventId : String) (operator : Json) :
    QuietCall (queueCommand runId command eventId operator) := by
  refine uses_andThen (perform_quiet trivial) fun tracked => ?_
  by_cases htracked : (!tracked) = true
  · rw [if_pos htracked]
    trivial
  · rw [if_neg htracked]
    refine quiet_when (onStore_quiet _) ?_
    split
    · exact ask_quiet _
    · exact quiet_when (ask_quiet _) (perform_quiet trivial)

theorem steerRun_quiet (cap : Nat) (payload : Dict) :
    QuietCall (steerRun hash runId cap payload) := by
  refine uses_andThen trivial fun supported => ?_
  by_cases hsupported : supported = true
  · rw [if_pos hsupported]
    refine uses_andThen getRunSession_quiet fun found => ?_
    cases found with
    | none => trivial
    | some session =>
      refine uses_andThen trivial fun _ => quiet_when (ask_quiet _) ?_
      refine uses_andThen (onStore_quiet _) fun stamp => ?_
      refine uses_andThen (onStore_quiet _) fun issuedAt => ?_
      refine uses_andThen (onStore_quiet _) fun event => ?_
      split
      · exact ask_quiet _
      split
      · refine uses_andThen (onStore_quiet _) fun now => ?_
        exact uses_andThen (onStore_quiet _) fun _ => trivial
      · exact queueCommand_quiet _ _ _
  · rw [if_neg hsupported]
    trivial

theorem applyKillSwitch_quiet (payload : Dict) : QuietCall (applyKillSwitch payload) := by
  have heither : ∀ {c : Prop} [Decidable c] {x y : Recording Bool} {rest : Bool → Recording Unit},
      QuietCall x → QuietCall y → (∀ b, QuietCall (rest b)) →
      QuietCall (if c then x >>= rest else y >>= rest) := by
    intro c _ x y rest hx hy hrest
    split
    · exact uses_andThen hx hrest
    · exact uses_andThen hy hrest
  refine heither trivial trivial fun stopWatchers => ?_
  refine quiet_when (ask_quiet _) (quiet_when (ask_quiet _) (quiet_when (ask_quiet _) ?_))
  exact quiet_when (perform_quiet trivial) (ask_quiet _)

end

end OrbitalMesh
