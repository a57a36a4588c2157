import OrbitalMesh.ControlPlane.GateRules

/-!
# Pause points and interruptions

Operators interrupt a run by commands in its queue and by pause points.  Two of the
exits of the worker's wait look at the mode alone, and a gate that is open on arrival
does not look into the queue.  So what operators ask for is honoured as long as the
run is not let through by itself (`pause_point_honoured`, `interruption_kept`).
-/

namespace OrbitalMesh

open Atomic Atomic.Raising

/-- What operators can do beside a run: steer it, or pull the kill switch. -/
inductive OperatorRequest where
  | steer (cap : Nat) (payload : Dict)
  | killSwitch (payload : Dict)

variable (hash : MerkleHash) (runId : String)

def OperatorRequest.program :
    OperatorRequest → Recording Unit
  | .steer cap payload => steerRun hash runId cap payload
  | .killSwitch payload => applyKillSwitch payload

theorem OperatorRequest.program_quiet (request : OperatorRequest) :
    QuietCall (request.program hash runId) := by
  cases request with
  | steer cap payload => exact steerRun_quiet cap payload
  | killSwitch payload => exact applyKillSwitch_quiet payload

/-- The sections of a run and of its operators, in the order in which they were
issued. -/
abbrev RunTrace := List (Event RunOp RunOp.Answer)

/-- The command that a section takes from the queue. -/
def takenBy : Event RunOp RunOp.Answer → Option SteeringCommand
  | ⟨.popCommand, .ok command⟩ => some command
  | _ => none

/-- The command that a section puts into the queue. -/
def issuedBy : Event RunOp RunOp.Answer → Option SteeringCommand
  | ⟨.record (.pushCommand command), _⟩ => some command
  | _ => none

def judgedBy : Event RunOp RunOp.Answer → Option EvaluationResult
  | ⟨.evaluate _ _ _, .ok evaluation⟩ => some evaluation
  | _ => none

variable (trace : RunTrace)

def taken : List SteeringCommand := trace.filterMap takenBy

def issued : List SteeringCommand := trace.filterMap issuedBy

def judged : List EvaluationResult := trace.filterMap judgedBy

variable (left right : RunTrace)

@[simp] theorem taken_append :
    taken (left ++ right) = taken left ++ taken right := List.filterMap_append

@[simp] theorem issued_append :
    issued (left ++ right) = issued left ++ issued right := List.filterMap_append

@[simp] theorem judged_append :
    judged (left ++ right) = judged left ++ judged right := List.filterMap_append

variable {e : Event RunOp RunOp.Answer} {s t : MeshState × RunTrace}

theorem taken_concat (h : takenBy e = none) (past : RunTrace) :
    taken (past ++ [e]) = taken past := by
  simp [taken, h]

theorem issued_concat (h : issuedBy e = none) (past : RunTrace) :
    issued (past ++ [e]) = issued past := by
  simp [issued, h]

theorem judged_concat (h : judgedBy e = none) (past : RunTrace) :
    judged (past ++ [e]) = judged past := by
  simp [judged, h]

/-- What happens beside the worker, and in its own quiet sections: nothing is
taken from the queue, which grows by what is issued, and nothing is evaluated. -/
structure Moves (s t : MeshState × RunTrace) : Prop where
  beside : Beside s.1 t.1
  past : ∃ more, t.2 = s.2 ++ more ∧ taken more = [] ∧ judged more = [] ∧
    t.1.control.commands = s.1.control.commands ++ issued more

theorem Moves.refl (s : MeshState × RunTrace) : Moves s s :=
  ⟨.refl _, [], by simp, rfl, rfl, by simp [issued]⟩

theorem Moves.trans {u : MeshState × RunTrace} (h : Moves s t) (h' : Moves t u) : Moves s u := by
  obtain ⟨more, hpast, htaken, hjudged, hqueue⟩ := h.past
  obtain ⟨more', hpast', htaken', hjudged', hqueue'⟩ := h'.past
  refine ⟨h.beside.trans h'.beside, more ++ more', ?_, ?_, ?_, ?_⟩
  · rw [hpast', hpast, List.append_assoc]
  · rw [taken_append, htaken, htaken', List.nil_append]
  · rw [judged_append, hjudged, hjudged', List.nil_append]
  · rw [hqueue', hqueue, issued_append, List.append_assoc]

theorem Moves.taken_eq (h : Moves s t) : taken t.2 = taken s.2 := by
  obtain ⟨more, hpast, htaken, -⟩ := h.past
  rw [hpast, taken_append, htaken, List.append_nil]

theorem Moves.judged_eq (h : Moves s t) : judged t.2 = judged s.2 := by
  obtain ⟨more, hpast, -, hjudged, -⟩ := h.past
  rw [hpast, judged_append, hjudged, List.append_nil]

/-- A section that leaves the control alone and takes, issues and evaluates
nothing. -/
theorem Moves.of_control_eq (hcontrol : t.1.control = s.1.control) (hpast : t.2 = s.2 ++ [e])
    (htaken : takenBy e = none) (hissued : issuedBy e = none) (hjudged : judgedBy e = none) :
    Moves s t := by
  refine ⟨.of_control_eq hcontrol, [e], hpast, ?_, ?_, ?_⟩
  · simp [taken, htaken]
  · simp [judged, hjudged]
  · simp [issued, hissued, hcontrol]

section

variable (step : (op : RunOp) → MeshState × RunTrace → op.Answer → MeshState × RunTrace → Prop)

/-- The worker relies on the others to move only like this; a decision may be
executed where the past permits it. -/
def workerWithPast (permits : ContractDecision → EvaluationResult → RunTrace → Prop) :
    Discipline RunOp RunOp.Answer (MeshState × RunTrace) where
  step := step
  rely := Moves
  allowed
    | .execute decision evaluation, s => permits decision evaluation s.2
    | _, _ => True
  earn _ _ := 0
  spend _ _ := 0
  rely_refl := .refl
  rely_trans := .trans

def operators : Discipline RunOp RunOp.Answer (MeshState × RunTrace) where
  step := step
  rely _ _ := True
  allowed op _ := ∃ quiet : RecordOp, op = .record quiet ∧ quiet.Quiet
  earn _ _ := 0
  spend _ _ := 0
  rely_refl _ := trivial
  rely_trans _ _ := trivial

variable {step} {config : StoreConfig} {hash : MerkleHash}
variable (hsub : ∀ op s r t, step op s r t → traced (runStep config hash) op s r t)
variable {permits : ContractDecision → EvaluationResult → RunTrace → Prop}

include hsub

variable {s t : MeshState × RunTrace}

theorem moves_of_quiet {op : RecordOp} {r : op.Answer} (hquiet : op.Quiet)
    (hstep : step (.record op) s r t) : Moves s t := by
  obtain ⟨hstep, hpast⟩ := hsub _ _ _ _ hstep
  refine ⟨beside_of_quiet hquiet hstep, _, hpast, rfl, rfl, ?_⟩
  cases op with
  | store op =>
    match r with
    | .error e =>
      rw [show t.1 = s.1 from hstep]
      simp [issued, issuedBy]
    | .ok value =>
      obtain ⟨store, -, ht⟩ := hstep
      rw [ht]
      simp [issued, issuedBy]
  | ask question =>
    obtain ⟨store, ht⟩ := hstep
    rw [ht]
    simp [issued, issuedBy]
  | getControl =>
    rw [hstep.2]
    simp [issued, issuedBy]
  | wait =>
    rw [show t.1 = s.1 from hstep]
    simp [issued, issuedBy]
  | pushCommand command =>
    rw [show t.1 = _ from hstep]
    simp [issued, issuedBy]
  | forceApprovalGate =>
    rw [show t.1 = _ from hstep]
    split <;> simp [issued, issuedBy]
  | pausePoints | autoMode | hasCommands | addPausePoint | setAutoMode | setPausePoints
  | finalizeRun => exact hquiet.elim

theorem working : Working config hash Prod.fst (workerWithPast step permits) where
  free := by
    intro op s hop
    cases op with
    | execute decision evaluation => cases hop
    | record op | popCommand | evaluate trigger decision allowRereevaluation => trivial
  cost _ _ := rfl
  runs hstep := (hsub _ _ _ _ hstep).1
  quiet hquiet hstep := moves_of_quiet hsub hquiet hstep
  beside hmoves := hmoves.beside

variable {α : Type}
  {main : Coord α} {others threads : List (Coord α)} {ok : α → MeshState × RunTrace → Prop}

theorem led_of_leads (hmain : Leads (workerWithPast step permits) main ok s)
    (hothers : ∀ q ∈ others, Prog.Uses
      (fun op => ∃ quiet : RecordOp, op = .record quiet ∧ quiet.Quiet) q) {trace : RunTrace}
    (hrun : Interleaves step (main :: others) s trace threads t) :
    Led (workerWithPast step permits) (operators step)
      (fun outcome _ t => ∀ a, outcome = .ok a → ok a t) t threads := by
  have hled : Led (workerWithPast step permits) (operators step)
      (fun outcome _ t => ∀ a, outcome = .ok a → ok a t) s (main :: others) := by
    refine ⟨⟨0, hmain 0⟩, fun q hq => ⟨0, ?_⟩⟩
    exact wp_of_uses (hothers q hq) (fun _ _ hop => hop) (fun _ _ => rfl)
      (fun _ _ _ _ => trivial) (fun _ _ _ _ _ _ _ => trivial) trivial
  refine hled.interleaves rfl (fun _ _ _ _ _ _ => trivial) ?_ hrun
  rintro _ u r v ⟨op, rfl, hquiet⟩ hstep
  exact ⟨moves_of_quiet hsub hquiet hstep, trivial⟩

theorem returned_among_operators (hmain : Leads (workerWithPast step permits) main ok s)
    (hothers : ∀ q ∈ others, Prog.Uses
      (fun op => ∃ quiet : RecordOp, op = .record quiet ∧ quiet.Quiet) q) {trace : RunTrace}
    {a : α} (hrun : Interleaves step (main :: others) s trace (.ret (.ok a) :: threads) t) :
    ok a t := by
  obtain ⟨c, hok⟩ := (led_of_leads hsub hmain hothers hrun).returned
  exact hok a rfl

theorem executed_where_permitted
    (hmain : Leads (workerWithPast step permits) main (fun _ _ => True) s)
    (hothers : ∀ q ∈ others, Prog.Uses
      (fun op => ∃ quiet : RecordOp, op = .record quiet ∧ quiet.Quiet) q) {before rest : RunTrace}
    {decision : ContractDecision} {evaluation : EvaluationResult} {answer : Except PyError Dict}
    (hrun : Interleaves step (main :: others) s
      (before ++ ⟨.execute decision evaluation, answer⟩ :: rest) threads t) :
    permits decision evaluation (s.2 ++ before) := by
  obtain ⟨left, right, k, u, hbefore⟩ := hrun.upTo
  have hpast : u.2 = s.2 ++ before := hbefore.past_eq fun hstep => (hsub _ _ _ _ hstep).2
  rcases (led_of_leads hsub hmain hothers hbefore).allowed with hpermits | ⟨op, hop, -⟩
  · have hpermits : permits decision evaluation u.2 := hpermits
    rwa [hpast] at hpermits
  · cases hop

end

def requestThreads {α : Type} (result : α) (requests : List OperatorRequest) : List (Coord α) :=
  requests.map fun request => do
    record (request.program hash runId)
    return result

theorem requestThreads_quiet {α : Type} {hash : MerkleHash} {runId : String} {result : α}
    {requests : List OperatorRequest} : ∀ q ∈ requestThreads hash runId result requests,
      Prog.Uses (fun op => ∃ quiet : RecordOp, op = .record quiet ∧ quiet.Quiet) q := by
  intro q hq
  obtain ⟨request, -, rfl⟩ := List.mem_map.mp hq
  refine uses_andThen (record_uses ?_) fun _ => trivial
  exact (request.program_quiet hash runId).mono fun op hop => ⟨op, rfl, hop⟩

/-- The mode is off where a waiting run would go on by itself: the queue is found
empty only then, and no command turns the mode on. -/
def HoldsOut : RunOp → MeshState → Prop
  | .record .hasCommands, s => s.control.commands = [] → s.control.autoMode = false
  | .record (.setAutoMode enabled), _ => enabled = false
  | _, _ => True

/-- The sections of a visit of the gate, in which a run that could go on by itself
is kept from it. -/
def visitStep (config : StoreConfig) (hash : MerkleHash) (evaluation : Option EvaluationResult)
    (op : RunOp) (s : MeshState) (r : op.Answer) (t : MeshState) : Prop :=
  (Opens "evaluation_ready" evaluation → HoldsOut op s) ∧ runStep config hash op s r t

def LastApproves : Prop :=
  ∃ earlier command, taken trace = earlier ++ [command] ∧ command.Approves

theorem LastApproves.moves {s t : MeshState × RunTrace} (h : LastApproves s.2)
    (hmoves : Moves s t) : LastApproves t.2 := by
  obtain ⟨earlier, command, hlast, happroves⟩ := h
  exact ⟨earlier, command, hmoves.taken_eq.trans hlast, happroves⟩

section

variable {step : (op : RunOp) → MeshState × RunTrace → op.Answer → MeshState × RunTrace → Prop}
variable {config : StoreConfig} {hash : MerkleHash}
variable (hsub : ∀ op s r t, step op s r t → traced (runStep config hash) op s r t)
variable {s t : MeshState × RunTrace}

include hsub

theorem moves_of_look {op : RecordOp} {r : op.Answer}
    (hlook : op = .pausePoints ∨ op = .autoMode ∨ op = .hasCommands)
    (hstep : step (.record op) s r t) : Moves s t := by
  obtain ⟨hstep, hpast⟩ := hsub _ _ _ _ hstep
  rcases hlook with rfl | rfl | rfl
  all_goals
    obtain ⟨-, hsame⟩ : _ ∧ t.1 = s.1 := hstep
    exact .of_control_eq (by rw [hsame]) hpast rfl rfl rfl

theorem taken_of_pop {command : SteeringCommand} (hstep : step .popCommand s (.ok command) t) :
    s.1.control.commands = command :: t.1.control.commands ∧
      t.1.control.autoMode = s.1.control.autoMode ∧
      t.1.control.pausePoints = s.1.control.pausePoints ∧
      t.2 = s.2 ++ [⟨.popCommand, .ok command⟩] ∧
      taken t.2 = taken s.2 ++ [command] ∧ issued t.2 = issued s.2 ∧ judged t.2 = judged s.2 := by
  obtain ⟨hpop, hpast⟩ := hsub _ _ _ _ hstep
  simp only [runStep] at hpop
  split at hpop
  · cases hpop.1
  · next head rest hqueue =>
    obtain ⟨hhead, ht⟩ := hpop
    cases hhead
    rw [hpast, ht, hqueue]
    simp [taken, takenBy, issued, issuedBy, judged, judgedBy]

/-- Accounts of a run that never goes on by itself: it does not find the gate open
on arrival, and the mode is off wherever it looks. -/
theorem holding_gatekeeping {evaluation : Option EvaluationResult}
    {permits : ContractDecision → EvaluationResult → RunTrace → Prop}
    {stands leaves again : MeshState × RunTrace → Prop}
    (hholds : Opens "evaluation_ready" evaluation → ∀ {op s r t}, stands s → step op s r t →
      HoldsOut op s.1)
    (hclosed : Opens "evaluation_ready" evaluation → ∀ {s stages t}, stands s →
      step (.record .pausePoints) s stages t → ¬ s.1.OpenGate)
    (hstands : ∀ {s t}, stands s → Moves s t → stands t)
    (hleaves : ∀ {s t}, leaves s → Moves s t → leaves t)
    (hagain : ∀ {s t}, again s → Moves s t → again t)
    (hmode : ∀ {s enabled u t}, stands s → step (.record (.setAutoMode enabled)) s u t → stands t)
    (hpause : ∀ {s stage u t}, stands s → step (.record (.addPausePoint stage)) s u t → stands t)
    (htake : ∀ {s command t}, stands s → step .popCommand s (.ok command) t →
      ¬ command.EndsWait →
      stands t ∧ (command.Approves → Opens "evaluation_ready" evaluation → leaves t))
    (hreplace : ∀ {s command t}, stands s → step .popCommand s (.ok command) t →
      command.Replaces → again t) :
    Gatekeeping Prod.fst (workerWithPast step permits) evaluation stands
      (fun s => stands s ∧ (Opens "evaluation_ready" evaluation → s.1.control.autoMode = false))
      leaves again where
  stands_stable h hmoves := hstands h hmoves
  looks_stable h hmoves :=
    ⟨hstands h.1 hmoves, fun hopens => hmoves.beside.autoMode_off (h.2 hopens)⟩
  leaves_stable h hmoves := hleaves h hmoves
  again_stable h hmoves := hagain h hmoves
  waits h := h.1
  readPauses h hstep := hstands h (moves_of_look hsub (.inl rfl) hstep)
  readMode h hstep := hstands h (moves_of_look hsub (.inr (.inl rfl)) hstep)
  readQueue h hstep := hstands h (moves_of_look hsub (.inr (.inr rfl)) hstep)
  empty h hstep := by
    have hmoves := moves_of_look hsub (.inr (.inr rfl)) hstep
    obtain ⟨hfound, -⟩ := (hsub _ _ _ _ hstep).1
    refine ⟨hstands h hmoves, fun hopens => hmoves.beside.autoMode_off ?_⟩
    exact hholds hopens h hstep (by simpa using hfound)
  mode h hstep := by
    refine ⟨hmode h hstep, fun hopens => ?_⟩
    rw [show _ = _ from (hsub _ _ _ _ hstep).1]
    exact hholds hopens h hstep
  lookMode h hstep := by
    have hmoves := moves_of_look hsub (.inr (.inl rfl)) hstep
    exact ⟨hstands h.1 hmoves, fun hopens => hmoves.beside.autoMode_off (h.2 hopens)⟩
  pause h hstep := hpause h hstep
  byItself hopens h hstep := by
    obtain ⟨hon, -⟩ := (hsub _ _ _ _ hstep).1
    exact absurd (hon.trans (h.2 hopens)) (by decide)
  onArrival hopens h hopen hstep := absurd hopen (hclosed hopens h hstep)
  take h hstep hgoes := htake h hstep hgoes
  replace h hstep hreplaces := hreplace h hstep hreplaces

end

section

variable {config : StoreConfig} {hash : MerkleHash} {evaluation : Option EvaluationResult}

theorem visitStep_run (op : RunOp) (s : MeshState × RunTrace) (r : op.Answer)
    (t : MeshState × RunTrace) (h : traced (visitStep config hash evaluation) op s r t) :
    traced (runStep config hash) op s r t := ⟨h.1.2, h.2⟩

theorem pausePoint_gatekeeping
    {permits : ContractDecision → EvaluationResult → RunTrace → Prop} :
    Gatekeeping Prod.fst (workerWithPast (traced (visitStep config hash evaluation)) permits)
      evaluation (fun s => "evaluation_ready" ∈ s.1.control.pausePoints)
      (fun s => "evaluation_ready" ∈ s.1.control.pausePoints ∧
        (Opens "evaluation_ready" evaluation → s.1.control.autoMode = false))
      (fun s => LastApproves s.2) (fun _ => True) := by
  refine holding_gatekeeping visitStep_run (fun hopens => fun _ h => h.1.1 hopens)
    (fun _ => fun h _ hopen => hopen.2 h) (fun h hmoves => hmoves.beside.pauses _ h)
    LastApproves.moves (fun _ _ => trivial) ?_ ?_ ?_ fun _ _ _ => trivial
  · intro s enabled u t h hstep
    rw [show t.1 = _ from hstep.1.2]
    exact h
  · intro s stage u t h hstep
    rw [show t.1 = _ from hstep.1.2]
    exact List.mem_insert_of_mem h
  · intro s command t h hstep _
    obtain ⟨-, -, hpauses, -, htaken, -⟩ := taken_of_pop visitStep_run hstep
    refine ⟨?_, fun happroves _ => ⟨_, command, htaken, happroves⟩⟩
    rwa [hpauses]

/-- **A pause point is honoured**: a run that arrives with it set leaves the gate only by taking
an approval from its queue. -/
theorem pause_point_honoured {runId : String} {rounds : Nat} {requests : List OperatorRequest}
    {s t : MeshState} {trace : RunTrace} {threads : List (Coord (Option WaitOutcome))}
    (hpause : "evaluation_ready" ∈ s.control.pausePoints)
    (hrun : Interleaves (visitStep config hash evaluation)
      (waitIfNeeded hash runId rounds "evaluation_ready" evaluation ::
        requestThreads hash runId none requests) s trace
      (.ret (.ok (some .proceed)) :: threads) t) :
    LastApproves trace := by
  have hleads : Leads (workerWithPast (traced (visitStep config hash evaluation))
      fun _ _ _ => True) (waitIfNeeded hash runId rounds "evaluation_ready" evaluation)
      (Waits (fun s => LastApproves s.2) fun _ => True) (s, []) :=
    pausePoint_gatekeeping.waitIfNeeded_leads (working visitStep_run) rounds hpause
  exact returned_among_operators visitStep_run hleads requestThreads_quiet (hrun.traced [])

end

def gateAnswer : (op : RunOp) → MeshState → Option (op.Answer × MeshState)
  | .record .wait, s => some ((), s)
  | .record (.setAutoMode enabled), s =>
    some ((), { s with control := { s.control with autoMode := enabled } })
  | .record (.addPausePoint stage), s =>
    some ((), { s with control := { s.control with
      pausePoints := s.control.pausePoints.insert stage } })
  | .execute _ _, s => some (.ok [], s)
  | op, s => sampleRunAnswer op s

variable (op : RunOp)

theorem gateAnswer_step (s : MeshState) (r : op.Answer) (t : MeshState)
    (h : gateAnswer op s = some (r, t)) : runStep ⟨100⟩ plainHash op s r t := by
  unfold gateAnswer at h
  split at h
  · cases h
    exact rfl
  · cases h
    exact rfl
  · cases h
    exact rfl
  · cases h
    exact ⟨_, rfl⟩
  · exact sampleRunAnswer_step _ s r t h

def pausedRun : MeshState := ⟨storeWithRun, ⟨[], true, ["evaluation_ready"]⟩, true⟩

def pausedVisit (requests : List OperatorRequest) : List (Coord (Option WaitOutcome)) :=
  waitIfNeeded plainHash "run" 3 "evaluation_ready" (some passedEvaluation) ::
    requestThreads plainHash "run" none requests

def proceeds : List (Coord (Option WaitOutcome)) → Bool
  | .ret (.ok (some .proceed)) :: _ => true
  | _ => false

theorem proceeds_inv {threads : List (Coord (Option WaitOutcome))}
    (h : proceeds threads = true) : ∃ rest, threads = .ret (.ok (some .proceed)) :: rest := by
  unfold proceeds at h
  split at h
  · exact ⟨_, rfl⟩
  · cases h

instance (op : RunOp) (s : MeshState) : Decidable (HoldsOut op s) := by
  unfold HoldsOut
  split <;> infer_instance

def holdingAnswer (s : MeshState) : Option (op.Answer × MeshState) :=
  if HoldsOut op s then gateAnswer op s else none

theorem holdingAnswer_step (s : MeshState) (r : op.Answer) (t : MeshState)
    (h : holdingAnswer op s = some (r, t)) : HoldsOut op s ∧ runStep ⟨100⟩ plainHash op s r t := by
  by_cases hholds : HoldsOut op s
  · rw [holdingAnswer, if_pos hholds] at h
    exact ⟨hholds, gateAnswer_step op s r t h⟩
  · rw [holdingAnswer, if_neg hholds] at h
    cases h

theorem pause_point_honoured_sample :
    ∃ trace threads t,
      Interleaves (visitStep ⟨100⟩ plainHash (some passedEvaluation))
        (pausedVisit [.steer 1000 [("command", .str "approve")]])
        { pausedRun with control := { pausedRun.control with autoMode := false } } trace
        (.ret (.ok (some .proceed)) :: threads) t ∧ LastApproves trace := by
  have hoverview : ((scheduleTrace holdingAnswer (List.replicate 17 1 ++ List.replicate 18 0)
      (pausedVisit [.steer 1000 [("command", .str "approve")]])
      { pausedRun with control := { pausedRun.control with autoMode := false } }).map
        fun reached => proceeds reached.2.1) = some true := by
    decide +kernel
  obtain ⟨⟨trace, threads, t⟩, hschedule, hproceeds⟩ := Option.map_eq_some_iff.mp hoverview
  obtain ⟨rest, rfl⟩ := proceeds_inv hproceeds
  have hanswers : ∀ op s r u, holdingAnswer op s = some (r, u) →
      visitStep ⟨100⟩ plainHash (some passedEvaluation) op s r u := by
    intro op s r u h
    obtain ⟨hholds, hstep⟩ := holdingAnswer_step op s r u h
    exact ⟨fun _ => hholds, hstep⟩
  have hrun := scheduleTrace_interleaves hanswers hschedule
  exact ⟨trace, rest, t, hrun, pause_point_honoured (by decide) hrun⟩

/-- A run in automatic mode waits at its pause point for half a second and goes
on; nobody has approved it. -/
theorem pause_point_passed :
    ¬ ∀ (config : StoreConfig) (hash : MerkleHash) (runId : String) (rounds : Nat)
      (evaluation : Option EvaluationResult) (requests : List OperatorRequest) (s t : MeshState)
      (trace : RunTrace) (threads : List (Coord (Option WaitOutcome))),
      "evaluation_ready" ∈ s.control.pausePoints →
      Interleaves (runStep config hash)
        (waitIfNeeded hash runId rounds "evaluation_ready" evaluation ::
          requestThreads hash runId none requests) s trace
        (.ret (.ok (some .proceed)) :: threads) t → LastApproves trace := by
  intro hclaim
  have hoverview : ((scheduleTrace gateAnswer (List.replicate 21 0) (pausedVisit []) pausedRun).map
      fun reached => (proceeds reached.2.1, (taken reached.1).isEmpty)) = some (true, true) := by
    decide +kernel
  obtain ⟨⟨trace, threads, t⟩, hschedule, hreached⟩ := Option.map_eq_some_iff.mp hoverview
  simp only [Prod.mk.injEq, List.isEmpty_iff] at hreached
  obtain ⟨hproceeds, hnothing⟩ := hreached
  obtain ⟨rest, rfl⟩ := proceeds_inv hproceeds
  have hrun := scheduleTrace_interleaves gateAnswer_step hschedule
  obtain ⟨earlier, command, htaken, -⟩ :=
    hclaim _ _ _ _ _ [] pausedRun t trace rest (by decide) hrun
  rw [hnothing] at htaken
  simp at htaken

/-- The command asks the run to stop, or to wait at the gate. -/
def SteeringCommand.Interrupts (command : SteeringCommand) : Prop :=
  command.commandType = "cancel" ∨
    command.commandType = "pause_after_stage" ∧
      command.payload.get? "stage" = some (.str "evaluation_ready") ∨
    command.commandType = "set_auto_mode" ∧
      truthy ((command.payload.get? "enabled").getD (.bool true)) = false

theorem SteeringCommand.Interrupts.not_approves {command : SteeringCommand}
    (h : command.Interrupts) : ¬ command.Approves := by
  unfold SteeringCommand.Approves
  rcases h with h | ⟨h, -⟩ | ⟨h, -⟩
  all_goals
    rw [h]
    decide

section

variable (earlier later : List SteeringCommand) (command : SteeringCommand)

/-- What was taken and what is in the queue is what was in it and what was issued
since, in this order; and the run is not cancelled. -/
structure Queued (s : MeshState × RunTrace) : Prop where
  order : taken s.2 ++ s.1.control.commands = earlier ++ command :: (later ++ issued s.2)
  running : ∀ other ∈ taken s.2, other.commandType ≠ "cancel"

/-- The commands that stand before this one in the queue still. -/
def ahead (past : RunTrace) : List SteeringCommand := earlier.drop (taken past).length

/-- The command was taken, it was no cancellation, and an approval was taken that
had been issued after it. -/
def Resumed (trace : RunTrace) : Prop :=
  command.commandType ≠ "cancel" ∧ ∃ between, taken trace = earlier ++ command :: between ∧
    (∃ approval ∈ between, approval.Approves) ∧ between <+: later ++ issued trace

/-- The evaluation of the decision that the run has come to, which was `evaluation`
in the beginning. -/
def currentEvaluation (evaluation : EvaluationResult) (past : RunTrace) : EvaluationResult :=
  (judged past).getLast?.getD evaluation

/-- The run does not find the gate open on arrival, does not go on by itself while it waits, and
no approval stands before the command in the queue. -/
def Heeds (evaluation : EvaluationResult) : (op : RunOp) → MeshState × RunTrace → op.Answer → Prop
  | .evaluate _ _ _, s, .ok result =>
    result.Allows → ∀ other ∈ ahead earlier s.2, ¬ other.Approves
  | .record .pausePoints, s, _ => (currentEvaluation evaluation s.2).Allows → ¬ s.1.OpenGate
  | .record (.setAutoMode enabled), s, _ =>
    (currentEvaluation evaluation s.2).Allows → enabled = false
  | .record .hasCommands, s, _ => (currentEvaluation evaluation s.2).Allows →
      s.1.control.commands = [] → s.1.control.autoMode = false
  | _, _, _ => True

def heedingStep (config : StoreConfig) (hash : MerkleHash) (evaluation : EvaluationResult)
    (op : RunOp) (s : MeshState × RunTrace) (r : op.Answer) (t : MeshState × RunTrace) : Prop :=
  Heeds earlier evaluation op s r ∧ traced (runStep config hash) op s r t

variable {earlier later command} {config : StoreConfig} {hash : MerkleHash}
variable {evaluation : EvaluationResult} {s t : MeshState × RunTrace}

theorem opens_allows {result : EvaluationResult} (h : Opens "evaluation_ready" (some result)) :
    result.Allows := by
  obtain ⟨other, hother, hallows⟩ := h rfl
  cases hother
  exact hallows

theorem heedingStep_run (op : RunOp) (s : MeshState × RunTrace) (r : op.Answer)
    (t : MeshState × RunTrace) (h : heedingStep earlier config hash evaluation op s r t) :
    traced (runStep config hash) op s r t := h.2

theorem heedingStep_holds {op : RunOp} {r : op.Answer}
    (hallows : (currentEvaluation evaluation s.2).Allows)
    (h : heedingStep earlier config hash evaluation op s r t) : HoldsOut op s.1 := by
  obtain ⟨hheeds, -⟩ := h
  unfold HoldsOut
  split
  · exact hheeds hallows
  · exact hheeds hallows
  · trivial

theorem Queued.moves (h : Queued earlier later command s) (hmoves : Moves s t) :
    Queued earlier later command t := by
  refine ⟨?_, by rw [hmoves.taken_eq]; exact h.running⟩
  obtain ⟨more, hpast, -, -, hqueue⟩ := hmoves.past
  rw [hmoves.taken_eq, hqueue, ← List.append_assoc, h.order, hpast]
  simp

/-- The worker changes the mode or the pause points, or evaluates a decision. -/
theorem Queued.changed (h : Queued earlier later command s) {e : Event RunOp RunOp.Answer}
    (hqueue : t.1.control.commands = s.1.control.commands) (hpast : t.2 = s.2 ++ [e])
    (htaken : takenBy e = none) (hissued : issuedBy e = none) : Queued earlier later command t := by
  refine ⟨?_, ?_⟩
  · rw [hpast, taken_concat htaken, issued_concat hissued, hqueue]
    exact h.order
  · rw [hpast, taken_concat htaken]
    exact h.running

theorem Resumed.moves (h : Resumed earlier later command s.2) (hmoves : Moves s t) :
    Resumed earlier later command t.2 := by
  obtain ⟨more, hpast, -⟩ := hmoves.past
  obtain ⟨hcancel, between, hbetween, happroval, hfront⟩ := h
  refine ⟨hcancel, between, hmoves.taken_eq.trans hbetween, happroval, ?_⟩
  rw [hpast, issued_append, ← List.append_assoc]
  exact hfront.trans (List.prefix_append _ _)

theorem behind_of_append_eq {α : Type} {xs zs as bs : List α} {y b : α}
    (h : xs ++ y :: zs = as ++ b :: bs) (hbefore : y ∉ as.drop xs.length) (hne : y ≠ b) :
    ∃ middle, xs = as ++ b :: middle ∧ bs = middle ++ y :: zs := by
  rcases List.append_eq_append_iff.mp h with ⟨front, has, hrest⟩ | ⟨front, hxs, hrest⟩
  · cases front with
    | nil => exact absurd (List.cons.inj hrest).1 hne
    | cons first front =>
      obtain ⟨rfl, -⟩ := List.cons.inj hrest
      exact absurd (by simp [has]) hbefore
  · cases front with
    | nil => exact absurd (List.cons.inj hrest).1.symm hne
    | cons first middle =>
      obtain ⟨rfl, hbs⟩ := List.cons.inj hrest
      exact ⟨middle, hxs, hbs⟩

section

variable {next : SteeringCommand} (hstep : heedingStep earlier config hash evaluation .popCommand
  s (.ok next) t)

include hstep

theorem Queued.take (h : Queued earlier later command s) (hcancel : next.commandType ≠ "cancel") :
    Queued earlier later command t := by
  obtain ⟨hqueue, -, -, -, htaken, hissued, -⟩ := taken_of_pop heedingStep_run hstep
  refine ⟨?_, fun other hother => ?_⟩
  · have horder := h.order
    rw [hqueue] at horder
    rw [htaken, hissued, List.append_assoc]
    exact horder
  · rw [htaken] at hother
    rcases List.mem_append.mp hother with hother | hother
    · exact h.running other hother
    · rwa [List.mem_singleton.mp hother]

theorem Queued.resumed (h : Queued earlier later command s) (hinterrupts : command.Interrupts)
    (hahead : ∀ other ∈ ahead earlier s.2, ¬ other.Approves) (happroves : next.Approves) :
    Resumed earlier later command t.2 := by
  obtain ⟨hqueue, -, -, -, htaken, hissued, -⟩ := taken_of_pop heedingStep_run hstep
  have horder := h.order
  rw [hqueue] at horder
  have hnot : next ∉ earlier.drop (taken s.2).length := fun hmem => hahead next hmem happroves
  have hne : next ≠ command := fun heq => hinterrupts.not_approves (heq ▸ happroves)
  obtain ⟨middle, hmiddle, hrest⟩ := behind_of_append_eq horder hnot hne
  refine ⟨h.running command (by simp [hmiddle]), middle ++ [next], ?_,
    ⟨next, by simp, happroves⟩, ?_⟩
  · rw [htaken, hmiddle, List.append_assoc, List.cons_append]
  · rw [hissued, hrest]
    exact ⟨t.1.control.commands, by simp⟩

end

/-- A run that stands at the gate with the evaluation `result`: if this allows its
decision, then no approval stands before the command. -/
structure Stays (earlier later : List SteeringCommand) (command : SteeringCommand)
    (evaluation result : EvaluationResult) (s : MeshState × RunTrace) : Prop where
  queued : Queued earlier later command s
  current : currentEvaluation evaluation s.2 = result
  ahead : result.Allows → ∀ other ∈ ahead earlier s.2, ¬ other.Approves

section

variable {result : EvaluationResult}

section

variable (h : Stays earlier later command evaluation result s)

include h

theorem Stays.moves (hmoves : Moves s t) : Stays earlier later command evaluation result t := by
  refine ⟨h.queued.moves hmoves, ?_, ?_⟩
  · unfold currentEvaluation
    rw [hmoves.judged_eq]
    exact h.current
  · unfold OrbitalMesh.ahead
    rw [hmoves.taken_eq]
    exact h.ahead

theorem Stays.changed
    {e : Event RunOp RunOp.Answer} (hqueue : t.1.control.commands = s.1.control.commands)
    (hpast : t.2 = s.2 ++ [e]) (htaken : takenBy e = none) (hissued : issuedBy e = none)
    (hjudged : judgedBy e = none) : Stays earlier later command evaluation result t := by
  refine ⟨h.queued.changed hqueue hpast htaken hissued, ?_, ?_⟩
  · unfold currentEvaluation
    rw [hpast, judged_concat hjudged]
    exact h.current
  · unfold OrbitalMesh.ahead
    rw [hpast, taken_concat htaken]
    exact h.ahead

theorem Stays.take {next : SteeringCommand}
    (hstep : heedingStep earlier config hash evaluation .popCommand s (.ok next) t)
    (hcancel : next.commandType ≠ "cancel") : Stays earlier later command evaluation result t := by
  obtain ⟨-, -, -, -, htaken, -, hjudged⟩ := taken_of_pop heedingStep_run hstep
  refine ⟨h.queued.take hstep hcancel, ?_, fun hallows other hother => ?_⟩
  · unfold currentEvaluation
    rw [hjudged]
    exact h.current
  · refine h.ahead hallows other (List.drop_subset_drop_left _ ?_ hother)
    rw [htaken, List.length_append]
    exact Nat.le_add_right _ _

end

theorem queued_gatekeeping {permits : ContractDecision → EvaluationResult → RunTrace → Prop}
    (hinterrupts : command.Interrupts) :
    Gatekeeping Prod.fst (workerWithPast (heedingStep earlier config hash evaluation) permits)
      (some result) (Stays earlier later command evaluation result)
      (fun s => Stays earlier later command evaluation result s ∧
        (Opens "evaluation_ready" (some result) → s.1.control.autoMode = false))
      (fun s => Resumed earlier later command s.2) (Queued earlier later command) := by
  refine holding_gatekeeping heedingStep_run ?_ ?_ Stays.moves Resumed.moves Queued.moves
    ?_ ?_ ?_ ?_
  · intro hopens op s r t h hstep
    exact heedingStep_holds (h.current ▸ opens_allows hopens) hstep
  · intro hopens s stages t h hstep
    exact hstep.1 (h.current ▸ opens_allows hopens)
  · intro s enabled u t h hstep
    obtain ⟨-, hstep, hpast⟩ := hstep
    exact h.changed (by rw [show t.1 = _ from hstep]) hpast rfl rfl rfl
  · intro s stage u t h hstep
    obtain ⟨-, hstep, hpast⟩ := hstep
    exact h.changed (by rw [show t.1 = _ from hstep]) hpast rfl rfl rfl
  · intro s next t h hstep hgoes
    refine ⟨h.take hstep fun hcancel => hgoes (.inl hcancel), fun happroves hopens => ?_⟩
    exact h.queued.resumed hstep hinterrupts (h.ahead (opens_allows hopens)) happroves
  · intro s next t h hstep hreplaces
    refine h.queued.take hstep fun hcancel => ?_
    unfold SteeringCommand.Replaces at hreplaces
    rw [hcancel] at hreplaces
    exact absurd hreplaces (by decide)

theorem Queued.evaluated (h : Queued earlier later command s) {trigger : Dict}
    {decision : ContractDecision} {allow : Bool}
    (hstep : heedingStep earlier config hash evaluation (.evaluate trigger decision allow) s
      (.ok result) t) : Stays earlier later command evaluation result t := by
  obtain ⟨hheeds, ⟨store, ht⟩, hpast⟩ := hstep
  refine ⟨h.changed (by rw [ht]) hpast rfl rfl, ?_, ?_⟩
  · simp [currentEvaluation, hpast, judged, judgedBy]
  · unfold OrbitalMesh.ahead
    rw [hpast, taken_concat rfl]
    exact hheeds

end

/-- **Interruptions are kept** as long as the run looks into its queue: it is executed only after
an approval that was issued later. -/
theorem interruption_kept {runId : String} {modes : RunModes} {source : String}
    {trigger event : Dict} {rounds : Nat} {decision executed : ContractDecision}
    {result : EvaluationResult} {requests : List OperatorRequest} {s : MeshState}
    {before rest : RunTrace} {threads : List (Coord RunEnd)} {answer : Except PyError Dict}
    (hqueue : s.control.commands = earlier ++ command :: later) (hinterrupts : command.Interrupts)
    (hearlier : evaluation.Allows → ∀ other ∈ earlier, ¬ other.Approves)
    (hrun : Interleaves (heedingStep earlier config hash evaluation)
      (throughGate hash runId modes source trigger event rounds decision evaluation ::
        requestThreads hash runId .returned requests) (s, [])
      (before ++ ⟨.execute executed result, answer⟩ :: rest) threads t) :
    Resumed earlier later command before := by
  have hstart : Stays earlier later command evaluation evaluation (s, []) := by
    refine ⟨⟨?_, by simp [taken]⟩, rfl, hearlier⟩
    simpa [taken, issued] using hqueue
  have hw : Working config hash Prod.fst (workerWithPast (heedingStep earlier config hash
      evaluation) fun _ _ past => Resumed earlier later command past) := working heedingStep_run
  have hleads : Leads (workerWithPast (heedingStep earlier config hash evaluation)
      fun _ _ past => Resumed earlier later command past)
      (throughGate hash runId modes source trigger event rounds decision evaluation)
      (fun _ _ => True) (s, []) := by
    refine hw.throughGate_leads (fun _ _ => queued_gatekeeping hinterrupts) ?_
      (fun _ _ _ h => h) hstart
    intro _ _ overridden u hu
    have hstays : ∀ {decision : ContractDecision} {result : EvaluationResult}
        {v w : MeshState × RunTrace}, Stays earlier later command evaluation result v →
        Moves v w → Stays earlier later command evaluation result w := Stays.moves
    refine hw.recordDecisionAndEvaluation_leads Queued.moves @hstays @hstays ?_ ?_ hu
    · exact fun _ _ v w hv hstep => hv.evaluated hstep
    · exact fun _ _ v hv => hw.quiet_leads (recordEvaluation_quiet _ _ _ _) Stays.moves hv
  exact executed_where_permitted heedingStep_run hleads requestThreads_quiet hrun

end

def plainCommand (commandType : String) : SteeringCommand := ⟨"cmd", "run", commandType, "0", []⟩

def gateRun (commands : List SteeringCommand) (autoMode : Bool) (pausePoints : List String) :
    MeshState := ⟨storeWithRun, ⟨commands, autoMode, pausePoints⟩, true⟩

def gateProgram : List (Coord RunEnd) :=
  throughGate plainHash "run" ⟨"native", "native"⟩ "signal" [] [] 3 restartDecision
    passedEvaluation :: requestThreads plainHash "run" .returned []

def executesNext : List (Coord RunEnd) → Bool
  | .call (.execute _ _) _ :: _ => true
  | _ => false

theorem executesNext_inv {threads : List (Coord RunEnd)} (h : executesNext threads = true) :
    ∃ decision evaluation k rest, threads = .call (.execute decision evaluation) k :: rest := by
  unfold executesNext at h
  split at h
  · exact ⟨_, _, _, _, rfl⟩
  · cases h

def setAutoModeOff : SteeringCommand :=
  ⟨"cmd", "run", "set_auto_mode", "0", [("enabled", .bool false)]⟩

instance (s : MeshState) : Decidable s.OpenGate := inferInstanceAs (Decidable (_ ∧ _))

instance (evaluation : EvaluationResult) : Decidable evaluation.Allows :=
  inferInstanceAs (Decidable (_ ∧ _))

instance (earlier : List SteeringCommand) (evaluation : EvaluationResult) (op : RunOp)
    (s : MeshState × RunTrace) (r : op.Answer) : Decidable (Heeds earlier evaluation op s r) := by
  unfold Heeds
  split <;> infer_instance

def heedingAnswer (s : MeshState × RunTrace) :
    Option (op.Answer × MeshState × RunTrace) :=
  match gateAnswer op s.1 with
  | some (r, t) =>
    if Heeds [] passedEvaluation op s r then some (r, t, s.2 ++ [⟨op, r⟩]) else none
  | none => none

theorem heedingAnswer_step (s : MeshState × RunTrace) (r : op.Answer)
    (t : MeshState × RunTrace) (h : heedingAnswer op s = some (r, t)) :
    heedingStep [] ⟨100⟩ plainHash passedEvaluation op s r t := by
  unfold heedingAnswer at h
  split at h
  · next answer u hanswer =>
    by_cases hheeds : Heeds [] passedEvaluation op s answer
    · rw [if_pos hheeds] at h
      cases h
      exact ⟨hheeds, gateAnswer_step op s.1 _ _ hanswer, rfl⟩
    · rw [if_neg hheeds] at h
      cases h
  · cases h

/-- A run at a pause point, whose mode is turned off and which is approved
then. -/
theorem interruption_kept_sample :
    ∃ before decision evaluation threads t,
      Interleaves (heedingStep [] ⟨100⟩ plainHash passedEvaluation) gateProgram
        (gateRun [setAutoModeOff, plainCommand "approve"] true ["evaluation_ready"], [])
        (before ++ [⟨.execute decision evaluation, .ok []⟩]) threads t ∧
      Resumed [] [plainCommand "approve"] setAutoModeOff before := by
  have hoverview : ((scheduleTrace heedingAnswer (List.replicate 35 0) gateProgram
      (gateRun [setAutoModeOff, plainCommand "approve"] true ["evaluation_ready"], [])).map
        fun reached => executesNext reached.2.1) = some true := by
    decide +kernel
  obtain ⟨⟨before, threads, u⟩, hschedule, hnext⟩ := Option.map_eq_some_iff.mp hoverview
  obtain ⟨decision, evaluation, k, rest, rfl⟩ := executesNext_inv hnext
  have hbefore := scheduleTrace_interleaves heedingAnswer_step hschedule
  have hrun := @Interleaves.tail _ _ _ _ (heedingStep [] ⟨100⟩ plainHash passedEvaluation) _ []
    rest _ k _ _ (u.1, u.2 ++ [⟨.execute decision evaluation, .ok []⟩]) (.ok []) before hbefore
    ⟨trivial, ⟨u.1.store, rfl⟩, rfl⟩
  refine ⟨before, decision, evaluation, _, _, hrun, ?_⟩
  exact interruption_kept rfl (.inr (.inr ⟨rfl, by decide⟩)) (by simp) hrun

/-- A cancellation in the queue of a run in automatic mode is not looked at: the
run finds its gate open and executes its decision. -/
theorem cancellation_overlooked :
    ¬ ∀ (config : StoreConfig) (hash : MerkleHash) (runId : String) (modes : RunModes)
      (source : String) (trigger event : Dict) (rounds : Nat)
      (decision executed : ContractDecision) (evaluation result : EvaluationResult)
      (requests : List OperatorRequest) (earlier later : List SteeringCommand)
      (command : SteeringCommand) (s t : MeshState) (before rest : RunTrace)
      (threads : List (Coord RunEnd)) (answer : Except PyError Dict),
      s.control.autoMode = true → s.control.commands = earlier ++ command :: later →
      command.Interrupts →
      Interleaves (runStep config hash)
        (throughGate hash runId modes source trigger event rounds decision evaluation ::
          requestThreads hash runId .returned requests) s
        (before ++ ⟨.execute executed result, answer⟩ :: rest) threads t →
      Resumed earlier later command before := by
  intro hclaim
  have hoverview : ((scheduleTrace gateAnswer (List.replicate 10 0) gateProgram
      (gateRun [plainCommand "cancel"] true [])).map fun reached => executesNext reached.2.1) =
        some true := by
    decide +kernel
  obtain ⟨⟨before, threads, u⟩, hschedule, hnext⟩ := Option.map_eq_some_iff.mp hoverview
  obtain ⟨decision, evaluation, k, rest, rfl⟩ := executesNext_inv hnext
  have hbefore := scheduleTrace_interleaves gateAnswer_step hschedule
  have hrun := @Interleaves.tail _ _ _ _ (runStep ⟨100⟩ plainHash) _ [] rest _ k _ _ _
    (.ok []) before hbefore ⟨u.store, rfl⟩
  obtain ⟨hcancel, -⟩ := hclaim _ _ _ _ _ _ _ _ _ decision _ evaluation [] [] []
    (plainCommand "cancel") _ _ before [] _ _ rfl rfl (.inl rfl) hrun
  exact hcancel rfl

end OrbitalMesh
