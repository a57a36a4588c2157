import OrbitalMesh.ControlPlane.Coordinator
import OrbitalMesh.ControlPlane.LiveRun

/-!
# The gate before the execution

`orchestrator.execute` is the one call of a run that acts on the world.  The loop
at the stage `evaluation_ready` is left towards it through four exits, each with
its own copy of the condition, and is entered again after each override.

A monitor remembers the decision that was evaluated last, with its result, and
forgets it when an override is taken from the queue.  The run obeys the monitor, and
what operators do beside it is silent, so every interleaving is accepted
(`execution_gated`).
-/

namespace OrbitalMesh

open Atomic Atomic.Raising

/-- What has been seen of a run: the last evaluation, unless an override came
after it, and whether there was an execution. -/
structure Seen where
  last : Option (ContractDecision × EvaluationResult)
  executed : Bool

/-- The evaluation lets its decision through. -/
def EvaluationResult.Allows (evaluation : EvaluationResult) : Prop :=
  evaluation.passed = true ∧ evaluation.finalRecommendation = "execute"

variable (m : Seen)

/-- The pair was evaluated last, its evaluation lets it through, and nothing was
executed yet. -/
structure Seen.Allows (decision : ContractDecision) (evaluation : EvaluationResult) :
    Prop where
  last : m.last = some (decision, evaluation)
  allowed : evaluation.Allows
  first : m.executed = false

def Seen.steered (command : SteeringCommand) : Seen :=
  if steeringDecisionCommands.contains command.commandType then { m with last := none } else m

@[simp] theorem Seen.steered_executed (command : SteeringCommand) :
    (m.steered command).executed = m.executed := by
  unfold Seen.steered
  split <;> rfl

variable {command : SteeringCommand} {event : Event RunOp RunOp.Answer}

theorem Seen.steered_of {m : Seen}
    (h : steeringDecisionCommands.contains command.commandType = true) :
    m.steered command = { m with last := none } := if_pos h

theorem Seen.steered_of_not {m : Seen}
    (h : ¬ steeringDecisionCommands.contains command.commandType = true) :
    m.steered command = m := if_neg h

def Seen.evaluated (decision : ContractDecision) :
    Except PyError EvaluationResult → Seen
  | .ok evaluation => { m with last := some (decision, evaluation) }
  | .error _ => { m with last := none }

def gateMonitor : Monitor RunOp RunOp.Answer Seen where
  admits
    | m, .execute decision evaluation => m.Allows decision evaluation
    | _, _ => True
  next
    | m, .popCommand, .ok command => m.steered command
    | m, .evaluate _ decision _, answer => m.evaluated decision answer
    | m, .execute _ _, _ => { m with executed := true }
    | m, _, _ => m

section

variable {α β : Type} {m : Seen}

theorem record_silent (x : Recording α) : Prog.Uses gateMonitor.Silent (record x) := by
  suffices hgo : ∀ {γ : Type} (p : Prog RecordOp RecordOp.Answer γ),
      (record.go p).Uses gateMonitor.Silent from hgo x
  intro γ p
  induction p with
  | ret a => trivial
  | call op k ih => exact ⟨fun m => ⟨trivial, fun r => rfl⟩, ih⟩

variable {x : Recording α} {P : α → Prop} {f : α → Coord β} {ok : β → Seen → Prop}

theorem record_gives (h : Gives P x) : Gives P (record x) := by
  suffices hgo : ∀ {γ : Type} {Q : γ → Prop} (p : Prog RecordOp RecordOp.Answer γ),
      p.Yields Q → (record.go p).Yields Q from hgo x h
  intro γ Q p hp
  induction p with
  | ret a => exact hp
  | call op k ih => exact fun r => ih r (hp r)

/-- After an exception nothing more is asked. -/
abbrev anyway : PyError → Seen → Prop := fun _ _ => True

theorem recorded_then (hP : Gives P x)
    (hf : ∀ a, P a → gateMonitor.Obeys (f a) (ends ok anyway) m) :
    gateMonitor.Obeys (record x >>= f : Coord β) (ends ok anyway) m :=
  obeys_silent_then (record_silent x) (record_gives hP) (fun _ => trivial) hf

theorem record_then (hf : ∀ a, gateMonitor.Obeys (f a) (ends ok anyway) m) :
    gateMonitor.Obeys (record x >>= f : Coord β) (ends ok anyway) m :=
  recorded_then (gives_any x) fun a _ => hf a

theorem record_last {ok : α → Seen → Prop} (hP : Gives P x) (hok : ∀ a, P a → ok a m) :
    gateMonitor.Obeys (record x) (ends ok anyway) m := by
  refine (Monitor.obeys_of_silent (record_silent x) (record_gives hP)).mono ?_
  rintro (e | a) m' ⟨ha, rfl⟩
  · trivial
  · exact hok a ha

end

variable (stage : String)

/-- At the stage `evaluation_ready` the evaluation lets its decision through. -/
def Opens (evaluation : Option EvaluationResult) : Prop :=
  stage = "evaluation_ready" → ∃ result, evaluation = some result ∧ result.Allows

theorem opens_of_test {stage : String} {result : EvaluationResult}
    (h : (result.passed && result.finalRecommendation == "execute") = true) :
    Opens stage (some result) := by
  simp only [Bool.and_eq_true, beq_iff_eq] at h
  exact fun _ => ⟨result, rfl, h⟩

section

variable (evaluation : Option EvaluationResult)

include evaluation

theorem continuesByItself_gives :
    Gives (fun continues => continues = true → Opens stage evaluation)
      (continuesByItself stage evaluation) := by
  unfold continuesByItself
  split
  · refine gives_then fun autoMode => ?_
    split
    · split
      · simp
      · rw [gives_pure]
        exact opens_of_test
    · simp
  · simp

theorem evaluationContinues_gives :
    Gives (fun continues => continues = true → Opens stage evaluation)
      (evaluationContinues stage evaluation) := by
  unfold evaluationContinues
  split
  · refine gives_then fun autoMode => ?_
    split
    · split
      · simp
      · split
        · next htest =>
          refine gives_then fun paused => ?_
          exact fun _ => opens_of_test htest
        · simp
    · simp
  · simp

theorem canAutoContinue_gives :
    Gives (fun continues => continues = true → Opens stage evaluation)
      (canAutoContinue stage evaluation) := by
  refine gives_andThen (evaluationContinues_gives stage evaluation) fun continues hopens => ?_
  split
  · next htrue =>
    exact fun _ => hopens htrue
  · split
    · next hfeedback =>
      refine gives_then fun paused => ?_
      rintro - rfl
      simp at hfeedback
    · simp

end

/-- How waiting ends: there was no execution, and a run that goes on has popped
no override and stands before an open gate. -/
def Waited (evaluation : Option EvaluationResult) (m : Seen)
    (outcome : Option WaitOutcome) (m' : Seen) : Prop :=
  m'.executed = m.executed ∧ (outcome = some .proceed → m' = m ∧ Opens stage evaluation)

section

variable {hash : MerkleHash} {runId : String} {m : Seen}

theorem popCommand_obeys :
    gateMonitor.Obeys popCommand (ends (fun command m' => m' = m.steered command) anyway) m := by
  refine ⟨trivial, ?_⟩
  rintro (e | command)
  · trivial
  · exact rfl

theorem resumeStage_obeys {stage : String} {evaluation : Option EvaluationResult}
    (h : Opens stage evaluation) :
    gateMonitor.Obeys (record (resumeStage runId stage)) (ends (Waited stage evaluation m) anyway)
      m :=
  record_last (gives_any _) fun _ _ => ⟨rfl, fun _ => ⟨rfl, h⟩⟩

/-- Every way out of the loop that goes on leads through an open gate. -/
theorem awaitOperator_obeys (stage : String) (evaluation : Option EvaluationResult)
    (rounds : Nat) :
    gateMonitor.Obeys (awaitOperator hash runId stage evaluation rounds)
      (ends (Waited stage evaluation m) anyway) m := by
  induction rounds with
  | zero => exact ⟨rfl, fun h => nomatch h⟩
  | succ rounds ih =>
    refine record_then fun found => ?_
    split
    · refine obeys_andThen (obeys_mono popCommand_obeys ?_ fun _ _ h => h)
      rintro command _ rfl
      -- a command of another type than the two overrides leaves no mark
      have hplain : ∀ {other : String}, (command.commandType == other) = true →
          steeringDecisionCommands.contains other = false → m.steered command = m := by
        intro other htype hother
        rw [beq_iff_eq] at htype
        exact Seen.steered_of_not (by rw [htype, hother]; exact Bool.false_ne_true)
      split
      · next htype =>
        rw [hplain htype rfl]
        exact ih
      split
      · next htype =>
        rw [hplain htype rfl]
        exact record_then fun _ => ih
      split
      · next htype =>
        rw [hplain htype rfl]
        refine record_then fun _ => record_then fun _ => record_then fun _ => ?_
        refine recorded_then (continuesByItself_gives stage evaluation) ?_
        intro continues hopens
        split
        · next htrue => exact resumeStage_obeys (hopens htrue)
        · exact ih
      split
      · exact ⟨m.steered_executed command, fun h => nomatch h⟩
      split
      · next htype =>
        have hsame : m.steered command = m := by
          rcases Bool.or_eq_true_iff.mp htype with htype | htype
          · exact hplain htype rfl
          · exact hplain htype rfl
        rw [hsame]
        split
        · split
          · exact record_then fun _ => ih
          · next hopen =>
            refine resumeStage_obeys fun hstage => ?_
            simp [hstage] at hopen
        · next result =>
          split
          · exact record_then fun _ => ih
          · next hopen =>
            refine resumeStage_obeys fun hstage => ⟨result, rfl, ?_⟩
            simpa [hstage, EvaluationResult.Allows] using hopen
      split
      · refine record_then fun _ => ?_
        exact ⟨m.steered_executed command, fun h => nomatch h⟩
      · next htype =>
        rw [Seen.steered_of_not htype]
        exact ih
    · refine record_then fun _ => record_then fun _ => ?_
      split
      · exact ⟨rfl, fun h => nomatch h⟩
      · refine recorded_then (continuesByItself_gives stage evaluation) ?_
        intro continues hopens
        split
        · next htrue => exact resumeStage_obeys (hopens htrue)
        · exact ih

theorem waitIfNeeded_obeys (rounds : Nat) (stage : String)
    (evaluation : Option EvaluationResult) :
    gateMonitor.Obeys (waitIfNeeded hash runId rounds stage evaluation)
      (ends (Waited stage evaluation m) anyway) m := by
  refine record_then fun session => record_then fun tracked => ?_
  split
  · exact ⟨rfl, fun h => nomatch h⟩
  · refine record_then fun requires => ?_
    refine recorded_then (canAutoContinue_gives stage evaluation) ?_
    intro continues hopens
    split
    · next hcontinues =>
      simp only [Bool.and_eq_true] at hcontinues
      exact ⟨rfl, fun _ => ⟨rfl, hopens hcontinues.2⟩⟩
    split
    · next hother =>
      refine ⟨rfl, fun _ => ⟨rfl, ?_⟩⟩
      rintro rfl
      simp at hother
    · exact record_then fun _ => record_then fun _ => awaitOperator_obeys stage evaluation rounds

variable (modes : RunModes)

theorem recordDecisionAndEvaluation_obeys (source : String) (trigger : Dict)
    (decision : ContractDecision) (allowRereevaluation : Bool) :
    gateMonitor.Obeys
      (recordDecisionAndEvaluation hash runId modes source trigger decision allowRereevaluation)
      (ends (fun pair m' => m' = { m with last := some pair }) anyway) m := by
  refine record_then fun decision => obeys_andThen ⟨trivial, ?_⟩
  rintro (e | evaluation)
  · trivial
  · exact record_then fun _ => rfl

variable {decision : ContractDecision} {evaluation : EvaluationResult}

theorem evaluationGate_obeys (source : String) (trigger : Dict) (rounds remaining : Nat)
    (hlast : m.last = some (decision, evaluation)) (hfirst : m.executed = false) :
    gateMonitor.Obeys
      (evaluationGate hash runId modes source trigger rounds remaining decision evaluation)
      (ends (fun exit m' => ∀ decision evaluation, exit = .execute decision evaluation →
        m'.Allows decision evaluation) anyway) m := by
  induction remaining generalizing m decision evaluation with
  | zero => exact fun _ _ h => nomatch h
  | succ remaining ih =>
    refine obeys_andThen (obeys_mono (waitIfNeeded_obeys rounds _ _) ?_ fun _ _ h => h)
    rintro outcome m' ⟨hexecuted, hproceed⟩
    match outcome with
    | none | some .cancel => exact fun _ _ h => nomatch h
    | some .proceed =>
      obtain ⟨rfl, hopens⟩ := hproceed rfl
      obtain ⟨result, hresult, hallows⟩ := hopens rfl
      cases hresult
      rintro _ _ ⟨⟩
      exact ⟨hlast, hallows, hfirst⟩
    | some (.override payload) =>
      refine obeys_silent_then trivial (gives_any _) (fun _ => trivial) fun overridden _ => ?_
      refine record_then fun _ => ?_
      refine obeys_andThen (obeys_mono (recordDecisionAndEvaluation_obeys modes source trigger
        overridden true) ?_ fun _ _ h => h)
      rintro ⟨decision, evaluation⟩ _ rfl
      exact ih rfl (hexecuted.trans hfirst)

theorem triggerGate_obeys (rounds remaining : Nat) :
    gateMonitor.Obeys (triggerGate hash runId rounds remaining)
      (ends (fun _ m' => m'.executed = m.executed) anyway) m := by
  induction remaining generalizing m with
  | zero => exact rfl
  | succ remaining ih =>
    refine obeys_andThen (obeys_mono (waitIfNeeded_obeys rounds _ _) ?_ fun _ _ h => h)
    rintro outcome m' ⟨hexecuted, -⟩
    match outcome with
    | none | some .cancel | some .proceed => exact hexecuted
    | some (.override payload) =>
      refine record_then fun _ => ?_
      exact obeys_mono ih (fun _ _ h => h.trans hexecuted) fun _ _ h => h

theorem feedbackGate_obeys (evaluation : EvaluationResult) (rounds remaining : Nat) :
    gateMonitor.Obeys (feedbackGate hash runId evaluation rounds remaining)
      (ends (fun _ _ => True) anyway) m := by
  induction remaining generalizing m with
  | zero => trivial
  | succ remaining ih =>
    refine obeys_andThen (obeys_mono (waitIfNeeded_obeys rounds _ _) ?_ fun _ _ h => h)
    rintro outcome m' -
    match outcome with
    | none | some .cancel | some .proceed => trivial
    | some (.override payload) => exact record_then fun _ => ih

/-- What a part of the run has to show in the end: nothing more. -/
abbrev done {α : Type} : Except PyError α → Seen → Prop := ends (fun _ _ => True) anyway

theorem record_done {α : Type} (x : Recording α) : gateMonitor.Obeys (record x) done m :=
  record_last (gives_any x) fun _ _ => trivial

theorem actOnDecision_obeys (event : Dict) (rounds : Nat) (h : m.Allows decision evaluation) :
    gateMonitor.Obeys (actOnDecision hash runId modes event rounds decision evaluation) done m := by
  refine record_then fun _ => obeys_andThen ⟨h, ?_⟩
  rintro (e | execution)
  · trivial
  refine record_then fun feedback => ?_
  refine obeys_andThen (obeys_mono (feedbackGate_obeys evaluation rounds rounds) ?_ fun _ _ h => h)
  rintro outcome m' -
  match outcome with
  | none => trivial
  | some .cancel | some .proceed | some (.override payload) => exact record_done _

theorem decideAndAct_obeys (signal event trigger : Dict)
    (canonicalSignal : Json) (source : String) (rounds : Nat) (hfirst : m.executed = false) :
    gateMonitor.Obeys
      (decideAndAct hash runId modes signal event trigger canonicalSignal source rounds)
        done m := by
  refine record_then fun findings => record_then fun _ => record_then fun decision => ?_
  refine obeys_andThen (obeys_mono (recordDecisionAndEvaluation_obeys modes source trigger
    decision false) ?_ fun _ _ h => h)
  rintro ⟨decision, evaluation⟩ _ rfl
  refine record_then fun recovery => ?_
  split
  · trivial
  split
  · exact record_done _
  · refine obeys_andThen (obeys_mono (evaluationGate_obeys modes source trigger rounds rounds rfl
      hfirst) ?_ fun _ _ h => h)
    rintro exit m' hexit
    match exit with
    | .waiting => trivial
    | .cancelled => exact record_done _
    | .execute decision evaluation => exact actOnDecision_obeys modes event rounds (hexit _ _ rfl)

theorem passTrigger_obeys (signal event trigger : Dict) (rounds : Nat)
    (hfirst : m.executed = false) :
    gateMonitor.Obeys (passTrigger hash runId modes signal event trigger rounds) done m := by
  refine record_then fun source => record_then fun _ => record_then fun _ =>
    record_then fun _ => ?_
  refine obeys_andThen (obeys_mono (triggerGate_obeys rounds rounds) ?_ fun _ _ h => h)
  rintro outcome m' hexecuted
  have hrest := hexecuted.trans hfirst
  match outcome with
  | none => trivial
  | some .cancel => exact record_done _
  | some .proceed => exact decideAndAct_obeys modes signal event trigger _ source rounds hrest
  | some (.override payload) =>
    exact decideAndAct_obeys modes signal event trigger _ source rounds hrest

theorem executeRun_obeys (signal : Dict) (scenarioKey : Option String)
    (rounds : Nat) (hfirst : m.executed = false) :
    gateMonitor.Obeys (executeRun hash runId modes signal scenarioKey rounds) done m := by
  refine record_then fun found => ?_
  match found with
  | none => trivial
  | some session =>
    have hstages : gateMonitor.Obeys
        (runStages hash runId modes session signal scenarioKey rounds) done m := by
      refine record_then fun inputs => record_then fun detected => ?_
      match detected with
      | none => exact record_done _
      | some trigger => exact passTrigger_obeys modes _ _ trigger rounds hfirst
    refine obeys_andThen (obeys_tryCatch (obeys_mono hstages ?_ ?_))
    · rintro (_ | _) m' -
      · exact record_done _
      · trivial
    · rintro e m' -
      exact record_then fun _ => record_done _

end

def Evaluates : Event RunOp RunOp.Answer → Prop
  | ⟨.evaluate _ _ _, _⟩ => True
  | _ => False

def TakesOverride : Event RunOp RunOp.Answer → Prop
  | ⟨.popCommand, .ok command⟩ => command.commandType ∈ steeringDecisionCommands
  | _ => False

def Executes : Event RunOp RunOp.Answer → Prop
  | ⟨.execute _ _, _⟩ => True
  | _ => False

theorem Executes.inv (h : Executes event) :
    ∃ decision evaluation answer, event = ⟨.execute decision evaluation, answer⟩ := by
  obtain ⟨op, answer⟩ := event
  cases op with
  | execute decision evaluation => exact ⟨decision, evaluation, answer, rfl⟩
  | record op | popCommand | evaluate trigger decision allow => exact h.elim

variable (trace : List (Event RunOp RunOp.Answer))

def LastEvaluated (decision : ContractDecision)
    (evaluation : EvaluationResult) : Prop :=
  ∃ earlier trigger allowRereevaluation later,
    trace = earlier ++ ⟨.evaluate trigger decision allowRereevaluation, .ok evaluation⟩ :: later ∧
      ∀ event ∈ later, ¬ Evaluates event ∧ ¬ TakesOverride event

theorem LastEvaluated.concat {trace : List (Event RunOp RunOp.Answer)}
    {decision : ContractDecision} {evaluation : EvaluationResult}
    (h : LastEvaluated trace decision evaluation) (hevaluates : ¬ Evaluates event)
    (htakes : ¬ TakesOverride event) : LastEvaluated (trace ++ [event]) decision evaluation := by
  obtain ⟨earlier, trigger, allow, later, rfl, hlater⟩ := h
  refine ⟨earlier, trigger, allow, later ++ [event], by simp, fun x hx => ?_⟩
  rcases List.mem_append.mp hx with hx | hx
  · exact hlater x hx
  · cases List.mem_singleton.mp hx
    exact ⟨hevaluates, htakes⟩

/-- What the monitor remembers has happened. -/
structure Seen.Describes (trace : List (Event RunOp RunOp.Answer)) : Prop where
  last : ∀ decision evaluation, m.last = some (decision, evaluation) →
    LastEvaluated trace decision evaluation
  first : m.executed = false → ∀ event ∈ trace, ¬ Executes event

theorem Seen.Describes.next {m : Seen} {trace : List (Event RunOp RunOp.Answer)}
    (h : m.Describes trace) (event : Event RunOp RunOp.Answer) :
    (gateMonitor.next m event.op event.resp).Describes (trace ++ [event]) := by
  have hfirst : m.executed = false → ¬ Executes event →
      ∀ x ∈ trace ++ [event], ¬ Executes x := by
    intro hexecuted hevent x hx
    rcases List.mem_append.mp hx with hx | hx
    · exact h.first hexecuted x hx
    · cases List.mem_singleton.mp hx
      exact hevent
  match event with
  | ⟨.record op, r⟩ | ⟨.popCommand, .error e⟩ =>
    exact ⟨fun d e hlast => (h.last d e hlast).concat id id, fun hm => hfirst hm id⟩
  | ⟨.popCommand, .ok command⟩ =>
    refine ⟨fun d e hlast => ?_, fun hm => hfirst ?_ id⟩
    · by_cases hoverride : steeringDecisionCommands.contains command.commandType = true
      · have hforgotten : (m.steered command).last = some (d, e) := hlast
        rw [Seen.steered_of hoverride] at hforgotten
        cases hforgotten
      · have hsame : m.steered command = m := Seen.steered_of_not hoverride
        refine (h.last d e ?_).concat id fun htakes => hoverride ?_
        · rw [← hsame]
          exact hlast
        · exact List.contains_iff_mem.mpr htakes
    · rw [← m.steered_executed command]
      exact hm
  | ⟨.evaluate trigger decision allow, .error e⟩ =>
    refine ⟨fun d e hlast => ?_, fun hm => hfirst hm id⟩
    cases hlast
  | ⟨.evaluate trigger decision allow, .ok evaluation⟩ =>
    refine ⟨fun d e hlast => ?_, fun hm => hfirst hm id⟩
    cases hlast
    exact ⟨trace, trigger, allow, [], rfl, by simp⟩
  | ⟨.execute decision evaluation, r⟩ =>
    exact ⟨fun d e hlast => (h.last d e hlast).concat id id, fun hm => nomatch hm⟩

def Seen.start : Seen := ⟨none, false⟩

theorem describes_after : (gateMonitor.after Seen.start trace).Describes trace := by
  induction trace using List.reverseRecOn with
  | nil =>
    refine ⟨fun decision evaluation h => ?_, fun _ event h => ?_⟩
    · cases h
    · cases h
  | append_singleton trace event ih =>
    rw [Monitor.after_concat]
    exact ih.next event

/-- **The execution gate.**  A decision is executed once at most, and only with an evaluation of
this very decision, the last one, that passed and came after the last override. -/
theorem execution_gated {config : StoreConfig} {hash : MerkleHash} {runId : String}
    {modes : RunModes} {signal : Dict} {scenarioKey : Option String} {rounds : Nat}
    {calls : List OperatorCall} {s t : MeshState}
    {threads : List (Prog RunOp RunOp.Answer (Except PyError Unit))}
    {before rest : List (Event RunOp RunOp.Answer)} {decision : ContractDecision}
    {evaluation : EvaluationResult} {answer : Except PyError Dict}
    (hrun : Interleaves (runStep config hash)
      (executeRun hash runId modes signal scenarioKey rounds ::
        calls.map fun call => record (call.program hash runId)) s
      (before ++ ⟨.execute decision evaluation, answer⟩ :: rest) threads t) :
    evaluation.passed = true ∧ evaluation.finalRecommendation = "execute" ∧
      LastEvaluated before decision evaluation ∧
      ∀ event ∈ before ++ rest, ¬ Executes event := by
  have hwatched : gateMonitor.Watched Seen.start
      (executeRun hash runId modes signal scenarioKey rounds ::
        calls.map fun call => record (call.program hash runId)) := by
    refine .here ((executeRun_obeys modes signal scenarioKey rounds rfl).mono
      fun _ _ _ => trivial) fun program hprogram => ?_
    obtain ⟨call, -, rfl⟩ := List.mem_map.mp hprogram
    exact record_silent _
  have haccepts := hrun.accepted hwatched
  have hallows : (gateMonitor.after Seen.start before).Allows decision evaluation :=
    haccepts.admits
  have hdescribes := describes_after before
  refine ⟨hallows.allowed.1, hallows.allowed.2, hdescribes.last _ _ hallows.last, ?_⟩
  intro event hevent hexecutes
  rcases List.mem_append.mp hevent with hevent | hevent
  · exact hdescribes.first hallows.first event hevent hexecutes
  · -- a later execution would have this one before it
    obtain ⟨middle, last, rfl⟩ := List.append_of_mem hevent
    rw [← List.cons_append, ← List.append_assoc] at haccepts
    obtain ⟨decision', evaluation', answer', rfl⟩ := hexecutes.inv
    have hlater : (gateMonitor.after Seen.start _).Allows decision' evaluation' :=
      haccepts.admits
    exact (describes_after _).first hlater.first ⟨.execute decision evaluation, answer⟩
      (by simp) trivial

def restartDecision : ContractDecision where
  decisionId := "dec"
  triggerId := "trg"
  summary := "restart"
  decisionType := "restart_deployment"
  autonomyTier := "approval_required"
  reasoning := [("primary_hypothesis", .str "leak"), ("evidence", .arr [.str "memory"]),
    ("alternatives_considered", .arr [.str "wait"])]
  expectedOutcome := [("target_metrics", .obj [("p95_latency_ms", .str "200"),
    ("error_rate", .str "1%")]), ("time_to_effect", .str "5m")]
  risk := [("level", .str "low"), ("blast_radius", .str "one"),
    ("customer_impact_if_wrong", .str "none")]
  confidence := .int 1
  executionPlan := [("system", .str "kubernetes_service"), ("action", .str "restart_deployment"),
    ("parameters", .obj []), ("rollback_plan", .str "none")]

def passedEvaluation : EvaluationResult where
  evaluationId := "eval"
  decisionId := "dec"
  passed := true
  finalRecommendation := "execute"
  stageResults := .obj []
  blockingReasons := []
  reviewRoute := none

def sampleReply : (question : Question) → question.Value
  | .readiness | .liveKubernetesSignal _ | .normalizeSignal _ | .investigationFailure _ _
  | .routeServiceAgent _ | .rcaReport _ _ _ _ | .feedback _ _ _ => ([] : Dict)
  | .detectTrigger _ => some []
  | .signalSource _ _ => "signal"
  | .investigationPlan _ _ | .evidencePack _ _ _ | .reasoningBank _ _ | .investigationReport _ _
  | .scenarioAnalysis _ _ _ => Json.null
  | .decide _ _ _ _ _ => restartDecision
  | .recoveryRun _ _ => false
  | .wireInvestigation _ _ | .trajectory _ _ | .deliveryContext | .agentTasks _ _
  | .deferredRecheck _ | .settleAgentTasks | .overrideLearning _ _ _ | .learning _ _
  | .memoryCrystallization | .benchmark | .reasoningBankLessons | .stopWatchers
  | .disableLiveExecution | .clearNamespaceAllowlist | .killSwitchArtifact _ | .reviewRecord _ _
  | .steeringRecord _ _ => ()

def sampleRunAnswer : (op : RunOp) → MeshState → Option (op.Answer × MeshState)
  | .record (.store op), s =>
    match sampleAnswer ⟨100⟩ plainHash op s.store with
    | some (value, store) => some (.ok value, { s with store })
    | none => none
  | .record (.ask question), s => some (.ok (sampleReply question), s)
  | .record .getControl, s => some (s.tracked, s)
  | .record .pausePoints, s => some (s.control.pausePoints, s)
  | .record .autoMode, s => some (s.control.autoMode, s)
  | .record .hasCommands, s => some (!s.control.commands.isEmpty, s)
  | .record (.pushCommand command), s =>
    some ((), { s with control :=
      { s.control with commands := s.control.commands ++ [command] } })
  | .popCommand, s =>
    match s.control.commands with
    | [] => none
    | command :: rest =>
      some (.ok command, { s with control := { s.control with commands := rest } })
  | .evaluate _ _ _, s => some (.ok passedEvaluation, s)
  | _, _ => none

theorem sampleRunAnswer_step (op : RunOp) (s : MeshState) (r : op.Answer) (t : MeshState)
    (h : sampleRunAnswer op s = some (r, t)) : runStep ⟨100⟩ plainHash op s r t := by
  cases op with
  | record op =>
    cases op with
    | store op =>
      simp only [sampleRunAnswer] at h
      split at h
      · next value store hanswer =>
        cases h
        exact ⟨store, sampleAnswer_step op s.store value store hanswer, rfl⟩
      · cases h
    | ask question =>
      cases h
      exact ⟨s.store, rfl⟩
    | getControl | pausePoints | autoMode | hasCommands =>
      cases h
      exact ⟨rfl, rfl⟩
    | pushCommand command =>
      cases h
      exact rfl
    | wait | addPausePoint | setAutoMode | setPausePoints | forceApprovalGate | finalizeRun =>
      cases h
  | popCommand =>
    simp only [sampleRunAnswer] at h
    split at h
    · cases h
    · next command rest hcommands =>
      cases h
      simp [runStep, hcommands]
  | evaluate trigger decision allow =>
    cases h
    exact ⟨s.store, rfl⟩
  | execute decision evaluation => cases h

def aboutToExecute : List (Prog RunOp RunOp.Answer (Except PyError Unit)) → Bool
  | .call (.execute _ _) _ :: _ => true
  | _ => false

theorem aboutToExecute_inv {threads : List (Prog RunOp RunOp.Answer (Except PyError Unit))}
    (h : aboutToExecute threads = true) :
    ∃ decision evaluation k rest, threads = .call (.execute decision evaluation) k :: rest := by
  unfold aboutToExecute at h
  split at h
  · exact ⟨_, _, _, _, rfl⟩
  · cases h

theorem execution_gated_sample :
    ∃ before decision evaluation threads t,
      Interleaves (runStep ⟨100⟩ plainHash)
        (executeRun plainHash "run" ⟨"native", "native"⟩ [] none 1 ::
          [OperatorCall.steer 1000 [("command", .str "approve")]].map
            fun call => record (call.program plainHash "run"))
        ⟨storeWithRun, ⟨[], false, []⟩, true⟩
        (before ++ [⟨.execute decision evaluation, .ok []⟩]) threads t ∧
      evaluation.passed = true ∧ LastEvaluated before decision evaluation := by
  have hpending : (schedule sampleRunAnswer (List.replicate 17 1 ++ List.replicate 156 0)
      (executeRun plainHash "run" ⟨"native", "native"⟩ [] none 1 ::
        [OperatorCall.steer 1000 [("command", .str "approve")]].map
          fun call => record (call.program plainHash "run"))
      ⟨storeWithRun, ⟨[], false, []⟩, true⟩).map (fun result => aboutToExecute result.1) =
        some true := by
    decide +kernel
  obtain ⟨⟨threads, s⟩, hschedule, habout⟩ := Option.map_eq_some_iff.mp hpending
  obtain ⟨decision, evaluation, k, rest, rfl⟩ := aboutToExecute_inv habout
  obtain ⟨before, hrun⟩ := schedule_interleaves sampleRunAnswer_step hschedule
  have hexecution := @Interleaves.tail _ _ _ _ _ _ [] rest _ k _ _ _ (.ok []) before hrun
    (show runStep ⟨100⟩ plainHash (.execute decision evaluation) s (.ok []) s from ⟨s.store, rfl⟩)
  obtain ⟨hpassed, -, hlast, -⟩ := execution_gated hexecution
  exact ⟨before, decision, evaluation, _, _, hexecution, hpassed, hlast⟩

end OrbitalMesh
